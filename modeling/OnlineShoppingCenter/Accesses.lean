import OnlineShoppingCenter.Endings

/-!
# The unchecked accesses of `main`

`cmd.front()` and `cmd_parts[i]` are not checked by the library. The accesses a
line leads to are listed prompt by prompt; those of the record decoders end in
an undefined outcome where they are out of range.
-/
namespace OnlineShoppingCenter

open TextCodec ColumnFamilies EffectProgram StorageSystem

inductive Access where
  | front (cmd : Text)
  | part (cmd_parts : List Text) (i : Nat)

def Access.InRange : Access → Prop
  | .front cmd => cmd ≠ []
  | .part cmd_parts i => i < cmd_parts.length

/-- The command is looked at when there is one. -/
def commandAccesses (cmd_parts : List Text) : List Access :=
  if cmd_parts.isEmpty then [] else [.part cmd_parts 0]

/-- `addtocart` reads the UPC, and the quantity unless there are two parts. -/
def mainAccesses (cmd_parts : List Text) : List Access :=
  commandAccesses cmd_parts ++
    if cmd_parts.head? = some "addtocart".toList ∧ ¬ cmd_parts.length < 2 then
      .part cmd_parts 1 :: if cmd_parts.length = 2 then [] else [.part cmd_parts 2]
    else []

/-- `remove` and `changeqty` read their arguments once they have counted them. -/
def cartAccesses (cmd_parts : List Text) : List Access :=
  commandAccesses cmd_parts ++
    if cmd_parts.head? = some "remove".toList ∧ ¬ cmd_parts.length < 2 then [.part cmd_parts 1]
    else if cmd_parts.head? = some "changeqty".toList ∧ ¬ cmd_parts.length < 3 then
      [.part cmd_parts 1, .part cmd_parts 2]
    else []

theorem commandAccesses_inRange (cmd_parts : List Text) :
    ∀ a ∈ commandAccesses cmd_parts, a.InRange := by
  intro a ha
  unfold commandAccesses at ha
  split at ha
  · cases ha
  · rename_i hne
    obtain rfl := List.mem_singleton.mp ha
    apply List.length_pos_of_ne_nil
    simpa using hne

theorem mainAccesses_inRange (cmd_parts : List Text) : ∀ a ∈ mainAccesses cmd_parts, a.InRange := by
  intro a ha
  rcases List.mem_append.mp ha with ha | ha
  · exact commandAccesses_inRange cmd_parts a ha
  split at ha
  · rename_i h
    rcases List.mem_cons.mp ha with rfl | ha
    · change 1 < cmd_parts.length
      omega
    split at ha
    · cases ha
    · obtain rfl := List.mem_singleton.mp ha
      change 2 < cmd_parts.length
      omega
  · cases ha

theorem cartAccesses_inRange (cmd_parts : List Text) : ∀ a ∈ cartAccesses cmd_parts, a.InRange := by
  intro a ha
  rcases List.mem_append.mp ha with ha | ha
  · exact commandAccesses_inRange cmd_parts a ha
  split at ha
  · obtain rfl := List.mem_singleton.mp ha
    change 1 < cmd_parts.length
    omega
  split at ha
  · rcases List.mem_cons.mp ha with rfl | ha
    · change 1 < cmd_parts.length
      omega
    · obtain rfl := List.mem_singleton.mp ha
      change 2 < cmd_parts.length
      omega
  · cases ha

variable [Platform]

/-- "Is this correct" is asked about what has been entered; the question after
it in the checkout looks at the same line. -/
def Loc.asks : Loc → Bool
  | .useAddress _ | .usePayment _ | .placeOrder _ => true
  | .orderAddr _ (.correct _) | .accountAddr (.correct _) => true
  | .orderPay _ (.correct _) | .accountPay (.correct _) => true
  | _ => false

def Proc.accesses (p : Proc) (line : Text) : List Access :=
  match p.loc with
  | .mainshell => mainAccesses (split line ' ')
  | .cartshell _ => cartAccesses (split line ' ')
  | .accshell | .tshell => commandAccesses (split line ' ')
  | loc => if loc.asks then [.front line] else []

/-- Only the answer to a `[Y/n]` question is accessed without a look at its size. -/
theorem accesses_inRange_iff (p : Proc) (line : Text) :
    (∀ a ∈ p.accesses line, a.InRange) ↔ (p.loc.asks = true → line ≠ []) := by
  obtain ⟨u, loc⟩ := p
  have hquestion : ∀ b : Bool, (∀ a ∈ (if b then [Access.front line] else []), a.InRange) ↔
      (b = true → line ≠ []) := by
    intro b
    cases b
    · simp
    · simp [Access.InRange]
  cases loc with
  | mainshell => exact iff_of_true (mainAccesses_inRange _) nofun
  | cartshell invalid_qty => exact iff_of_true (cartAccesses_inRange _) nofun
  | accshell | tshell => exact iff_of_true (commandAccesses_inRange _) nofun
  | useAddress order => exact hquestion (Loc.useAddress order).asks
  | orderAddr order prompt => exact hquestion (Loc.orderAddr order prompt).asks
  | usePayment order => exact hquestion (Loc.usePayment order).asks
  | orderPay order prompt => exact hquestion (Loc.orderPay order prompt).asks
  | placeOrder order => exact hquestion (Loc.placeOrder order).asks
  | accountAddr prompt => exact hquestion (Loc.accountAddr prompt).asks
  | accountPay prompt => exact hquestion (Loc.accountPay prompt).asks
  | exited => exact hquestion Loc.exited.asks

/-- How the program is called: to fill the databases, which it asks about
first, or by a user. -/
inductive Invocation where
  | init (cmd : Text)
  | session (username : Text) (lines : List Text)

namespace Invocation

/-- What is accessed is there, in `main` and in the records that are decoded. -/
def InRange (w : World) : Invocation → Prop
  | .init cmd => (Access.front cmd).InRange
  | .session username lines =>
    (∀ front line back, lines = front ++ line :: back →
      ∀ r, (run sys (OnlineShoppingCenter.session username front) w).1 = .ok r →
        ∀ a ∈ r.2.accesses line, a.InRange) ∧
      (run sys (OnlineShoppingCenter.session username lines) w).1 ≠ .error .undefined

/-- Nobody just presses Enter at a question that wants a yes or a no. -/
def Answered (w : World) : Invocation → Prop
  | .init cmd => cmd ≠ []
  | .session username lines => ∀ front line back, lines = front ++ line :: back →
    ∀ r, (run sys (OnlineShoppingCenter.session username front) w).1 = .ok r →
      r.2.loc.asks = true → line ≠ []

end Invocation

/-- In every database reached, an access is out of range exactly when an empty
line answers a question. -/
theorem accesses_inRange_iff_answered {ι : Type} [DecidableEq ι] (w : World)
    (sessions : ι → Text × List Text) (schedule : List ι) (i : Invocation) :
    i.InRange (interleaved w sessions schedule) ↔ i.Answered (interleaved w sessions schedule) := by
  cases i with
  | init cmd => rfl
  | session username lines =>
    have hundefined := (good_interleaved w sessions schedule).session_defined username lines
    simp only [Invocation.InRange, Invocation.Answered, accesses_inRange_iff]
    exact and_iff_left hundefined

end OnlineShoppingCenter

namespace OnlineShoppingCenter

open TextCodec ColumnFamilies EffectProgram StorageSystem

attribute [local instance] posix

/-- A new card as far as "Is this correct". -/
def newCard : List Text :=
  ["account".toList, "pay".toList, "4929".toList, "01/19".toList, "123".toList]

/-- Pressing Enter at "Is this correct", or when asked about `--init`. -/
theorem enter_out_of_range :
    ¬ Invocation.InRange freshWorld (.session "testuser003".toList (newCard ++ [[]])) ∧
      ¬ Invocation.InRange freshWorld (.init []) := by
  have hasks : ((run sys (session "testuser003".toList newCard) freshWorld).1.toOption.map
      fun r => r.2.loc.asks) = some true := by decide +kernel
  obtain ⟨r, hr, hloc⟩ := Option.map_eq_some_iff.mp hasks
  constructor
  · intro ⟨hrange, _⟩
    have hall := hrange newCard [] [] rfl r (ok_of_mem hr)
    exact (accesses_inRange_iff r.2 []).mp hall hloc rfl
  · intro h
    exact h rfl

end OnlineShoppingCenter
