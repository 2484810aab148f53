import OnlineShoppingCenter.Client

/-!
# The address and payment dialogues

Each dialogue stands twice in `main`, once in the checkout and once in the
account menu. A prompt keeps the local variables read so far; a step takes the
line typed and gives the next prompt or ends the dialogue.
-/
namespace OnlineShoppingCenter

open TextCodec

variable [Platform]

inductive AddrPrompt where
  | name1
  | name2 (name1_s : Text)
  | street1 (addr : ShippingAddress)
  | street2 (addr : ShippingAddress) (street1_s : Text)
  | city (addr : ShippingAddress)
  | state (addr : ShippingAddress)
  | zip (addr : ShippingAddress)
  | country (addr : ShippingAddress)
  | correct (addr : ShippingAddress)

inductive PayPrompt where
  | num
  | exp (cc_num : UInt64) (num_s : Text)
  | cv2 (cc_num : UInt64) (num_s : Text) (cc_exp : Text)
  | correct (cc : PaymentInfo)

/-- How a dialogue goes on after a line: another prompt, an entry that is not
valid, a no to "Is this correct", or the value entered. -/
inductive Answer (σ α : Type) where
  | next (prompt : σ)
  | reject
  | decline
  | accept (value : α)

def AddrPrompt.question : AddrPrompt → Question
  | .correct _ => .isCorrect
  | _ => .shell

def PayPrompt.question : PayPrompt → Question
  | .correct _ => .isCorrect
  | _ => .shell

/-- The characters of a line that are no blanks. -/
def nonspace (line : Text) : Text := line.filter (fun c => !isspace c)

/-- `cmd.front()`; the terminating null character when the line is empty. -/
def front (cmd : Text) : Char := cmd.headD '\x00'

def saysNo (cmd : Text) : Bool := front cmd = 'n' || front cmd = 'N'

/-- `(unsigned int)stoul(line)` under a handler for `invalid_argument` only. -/
def number {β σ α : Type} (parsed : Except Exn β) (k : β → Answer σ α) : Except Exn (Answer σ α) :=
  match parsed with
  | .ok n => .ok (k n)
  | .error .invalid_argument => .ok .reject
  | .error e => .error e

/-- A second line is appended to the first unless it is blank. -/
def appendLine (first second : Text) : Text :=
  if (nonspace second).isEmpty then first else first ++ '\n' :: second

/-- The checkout copy, from the first name line to "Is this correct". -/
def orderAddrStep : AddrPrompt → Text → Except Exn (Answer AddrPrompt ShippingAddress)
  | .name1, name1_s =>
    .ok (if (nonspace name1_s).isEmpty then .reject else .next (.name2 name1_s))
  | .name2 name1_s, name2_s =>
    .ok (.next (.street1 (({} : ShippingAddress).changeShippingName (appendLine name1_s name2_s))))
  | .street1 addr, street1_s =>
    .ok (if (nonspace street1_s).isEmpty then .reject else .next (.street2 addr street1_s))
  | .street2 addr street1_s, street2_s =>
    .ok (.next (.city (addr.changeStreet (appendLine street1_s street2_s))))
  | .city addr, city_s =>
    .ok (if (nonspace city_s).isEmpty then .reject else .next (.state (addr.changeCity city_s)))
  | .state addr, state_s =>
    .ok (if (nonspace state_s).isEmpty then .reject else .next (.zip (addr.changeState state_s)))
  | .zip addr, zip_s => number (stoui zip_s) fun zip => .next (.country (addr.changeZip zip))
  | .country addr, country_s =>
    .ok (if (nonspace country_s).isEmpty then .reject
      else .next (.correct (addr.changeCountry country_s)))
  | .correct addr, cmd => .ok (if saysNo cmd then .decline else .accept addr)

/-- The account copy of the address dialogue. -/
def accountAddrStep : AddrPrompt → Text → Except Exn (Answer AddrPrompt ShippingAddress)
  | .name1, name1_s =>
    .ok (if (nonspace name1_s).isEmpty then .reject else .next (.name2 name1_s))
  | .name2 name1_s, name2_s =>
    .ok (.next (.street1 (({} : ShippingAddress).changeShippingName (appendLine name1_s name2_s))))
  | .street1 addr, street1_s =>
    .ok (if (nonspace street1_s).isEmpty then .reject else .next (.street2 addr street1_s))
  | .street2 addr street1_s, street2_s =>
    .ok (.next (.city (addr.changeStreet (appendLine street1_s street2_s))))
  | .city addr, city_s =>
    .ok (if (nonspace city_s).isEmpty then .reject else .next (.state (addr.changeCity city_s)))
  | .state addr, state_s =>
    .ok (if (nonspace state_s).isEmpty then .reject else .next (.zip (addr.changeState state_s)))
  | .zip addr, zip_s => number (stoui zip_s) fun zip => .next (.country (addr.changeZip zip))
  | .country addr, country_s =>
    .ok (if (nonspace country_s).isEmpty then .reject
      else .next (.correct (addr.changeCountry country_s)))
  | .correct addr, cmd => .ok (if saysNo cmd then .decline else .accept addr)

/-- The checkout copy of the payment dialogue. The cv2 is parsed from `num_s`,
the line typed for the card number. -/
def orderPayStep : PayPrompt → Text → Except Exn (Answer PayPrompt PaymentInfo)
  | .num, num_s => number (stoul num_s) fun cc_num => .next (.exp cc_num num_s)
  | .exp cc_num num_s, cc_exp =>
    .ok (if (nonspace cc_exp).isEmpty then .reject else .next (.cv2 cc_num num_s cc_exp))
  | .cv2 cc_num num_s cc_exp, _cv2_s =>
    number (stoui num_s) fun cc_cv2 => .next (.correct (.new cc_num cc_exp cc_cv2))
  | .correct cc, cmd => .ok (if saysNo cmd then .decline else .accept cc)

/-- The account copy of the payment dialogue. -/
def accountPayStep : PayPrompt → Text → Except Exn (Answer PayPrompt PaymentInfo)
  | .num, num_s => number (stoul num_s) fun cc_num => .next (.exp cc_num num_s)
  | .exp cc_num num_s, cc_exp =>
    .ok (if (nonspace cc_exp).isEmpty then .reject else .next (.cv2 cc_num num_s cc_exp))
  | .cv2 cc_num num_s cc_exp, _cv2_s =>
    number (stoui num_s) fun cc_cv2 => .next (.correct (.new cc_num cc_exp cc_cv2))
  | .correct cc, cmd => .ok (if saysNo cmd then .decline else .accept cc)

/-- The flag and all six parts. -/
def ShippingAddress.Complete (a : ShippingAddress) : Prop :=
  a.is_set = true ∧ a.parts_set = S_ALL_SET

def AddrPrompt.Sound : AddrPrompt → Prop
  | .name1 | .name2 _ => True
  | .street1 addr | .street2 addr _ => addr.parts_set = S_NAME_SET
  | .city addr => addr.parts_set = S_NAME_SET ||| S_STREET_SET
  | .state addr => addr.parts_set = S_NAME_SET ||| S_STREET_SET ||| S_CITY_SET
  | .zip addr => addr.parts_set = S_NAME_SET ||| S_STREET_SET ||| S_CITY_SET ||| S_STATE_SET
  | .country addr =>
    addr.parts_set = S_NAME_SET ||| S_STREET_SET ||| S_CITY_SET ||| S_STATE_SET ||| S_ZIP_SET
  | .correct addr => addr.Complete

def PayPrompt.Sound : PayPrompt → Prop
  | .correct cc => cc.is_set = true
  | _ => True

/-- A property of the prompts and of the value a dialogue ends with. -/
def Answer.All {σ α : Type} (P : σ → Prop) (R : α → Prop) : Answer σ α → Prop
  | .next prompt => P prompt
  | .accept value => R value
  | .reject | .decline => True

omit [Platform] in
theorem number_all {β σ α : Type} {parsed : Except Exn β} {k : β → Answer σ α}
    {P : σ → Prop} {R : α → Prop} {a : Answer σ α} (h : number parsed k = .ok a)
    (hk : ∀ n, (k n).All P R) : a.All P R := by
  unfold number at h
  split at h
  · cases h
    exact hk _
  · cases h
    trivial
  · cases h

omit [Platform] in
theorem number_error {β σ α : Type} {parsed : Except Exn β} {k : β → Answer σ α} {e : Exn}
    (h : number parsed k = .error e) : parsed = .error e := by
  unfold number at h
  split at h
  · cases h
  · cases h
  · cases h
    rfl

theorem accountAddrStep_eq : accountAddrStep = orderAddrStep := by
  funext prompt line
  cases prompt <;> rfl

theorem accountPayStep_eq : accountPayStep = orderPayStep := by
  funext prompt line
  cases prompt <;> rfl

theorem orderAddrStep_sound {prompt : AddrPrompt} {line : Text}
    {a : Answer AddrPrompt ShippingAddress} (hp : prompt.Sound)
    (h : orderAddrStep prompt line = .ok a) : a.All AddrPrompt.Sound ShippingAddress.Complete := by
  have blank : ∀ {b : Bool} {p : AddrPrompt}, p.Sound →
      (if b then .reject else .next p : Answer AddrPrompt ShippingAddress).All
        AddrPrompt.Sound ShippingAddress.Complete := by
    intro b p hp
    cases b
    · exact hp
    · trivial
  cases prompt with
  | name1 =>
    cases h
    exact blank trivial
  | name2 name1_s =>
    cases h
    exact (by decide : (0 : UInt32) ||| S_NAME_SET = S_NAME_SET)
  | street1 addr =>
    cases h
    exact blank hp
  | street2 addr street1_s =>
    cases h
    exact congrArg (· ||| S_STREET_SET) hp
  | city addr =>
    cases h
    exact blank (congrArg (· ||| S_CITY_SET) hp)
  | state addr =>
    cases h
    exact blank (congrArg (· ||| S_STATE_SET) hp)
  | zip addr => exact number_all h fun n => congrArg (· ||| S_ZIP_SET) hp
  | country addr =>
    cases h
    have hall : addr.parts_set ||| S_COUNTRY_SET = S_ALL_SET := by
      rw [show addr.parts_set = _ from hp]
      decide
    exact blank ⟨if_pos hall, hall⟩
  | correct addr =>
    cases h
    split
    · trivial
    · exact hp

theorem orderPayStep_sound {prompt : PayPrompt} {line : Text} {a : Answer PayPrompt PaymentInfo}
    (hp : prompt.Sound) (h : orderPayStep prompt line = .ok a) :
    a.All PayPrompt.Sound fun cc => cc.is_set = true := by
  cases prompt with
  | num => exact number_all h fun n => trivial
  | exp cc_num num_s =>
    cases h
    split <;> trivial
  | cv2 cc_num num_s cc_exp => exact number_all h fun n => rfl
  | correct cc =>
    cases h
    split
    · trivial
    · exact hp

/-- A dialogue goes on or starts again. -/
def Answer.Open {σ α : Type} : Answer σ α → Prop
  | .next _ | .reject => True
  | .accept _ | .decline => False

omit [Platform] in
theorem number_open {β σ α : Type} {parsed : Except Exn β} {k : β → σ} {a : Answer σ α}
    (h : number parsed (fun n => .next (k n)) = .ok a) : a.Open := by
  unfold number at h
  split at h
  · cases h
    trivial
  · cases h
    trivial
  · cases h

/-- Only "Is this correct" accepts or declines an address. -/
theorem orderAddrStep_open {prompt : AddrPrompt} {line : Text}
    {a : Answer AddrPrompt ShippingAddress} (hp : ∀ addr, prompt ≠ .correct addr)
    (h : orderAddrStep prompt line = .ok a) : a.Open := by
  cases prompt with
  | name2 | street2 =>
    cases h
    trivial
  | name1 | street1 | city | state | country =>
    cases h
    split <;> trivial
  | zip addr => exact number_open h
  | correct addr => exact absurd rfl (hp addr)

theorem orderPayStep_open {prompt : PayPrompt} {line : Text} {a : Answer PayPrompt PaymentInfo}
    (hp : ∀ cc, prompt ≠ .correct cc) (h : orderPayStep prompt line = .ok a) : a.Open := by
  cases prompt with
  | num => exact number_open h
  | exp cc_num num_s =>
    cases h
    split <;> trivial
  | cv2 cc_num num_s cc_exp => exact number_open h
  | correct cc => exact absurd rfl (hp cc)

theorem orderAddrStep_error {prompt : AddrPrompt} {line : Text} {e : Exn}
    (h : orderAddrStep prompt line = .error e) : e ≠ .runtime_error := by
  cases prompt with
  | zip addr => exact stoui_error (number_error h)
  | name1 | name2 | street1 | street2 | city | state | country | correct => cases h

theorem orderPayStep_error {prompt : PayPrompt} {line : Text} {e : Exn}
    (h : orderPayStep prompt line = .error e) : e ≠ .runtime_error := by
  cases prompt with
  | num => exact stoul_error (number_error h)
  | cv2 cc_num num_s cc_exp => exact stoui_error (number_error h)
  | exp | correct => cases h

end OnlineShoppingCenter
