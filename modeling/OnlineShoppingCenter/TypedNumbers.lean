import OnlineShoppingCenter.MainLoop
import OnlineShoppingCenter.SampleData

/-!
# Numbers that are typed

Five places of `main` read an unsigned int from a text: the two quantities, the
two postal codes and the index of an order. Each goes through `stoul` and a
cast, so the number used is the one typed exactly for the numerals below 2^32.
-/
namespace OnlineShoppingCenter

open TextCodec EffectProgram

/-- A non-empty text of digits, and the number it denotes. -/
def Denotes (t : Text) (n : Nat) : Prop :=
  t ≠ [] ∧ t.all Char.isDigit = true ∧ Nat.ofDigitChars 10 t 0 = n

/-- The digits that `stoul` reads. -/
def leadingDigits (t : Text) : Text := (sign (t.dropWhile isspace)).2.takeWhile Char.isDigit

/-- No digit, or a number that has no 64 bits. -/
def NotRead (t : Text) : Prop :=
  leadingDigits t = [] ∨ 2 ^ 64 ≤ Nat.ofDigitChars 10 (leadingDigits t) 0

theorem stoui_of_notRead {t : Text} (h : NotRead t) (n : UInt32) : stoui t ≠ .ok n := by
  have herror : ∃ e, stoul t = .error e := by
    unfold stoul
    split
    rename_i negative rest hsign
    have hdigits : leadingDigits t = rest.takeWhile Char.isDigit := by rw [leadingDigits, hsign]
    rw [NotRead, hdigits] at h
    dsimp only
    cases h with
    | inl hnone => exact ⟨_, if_pos (by simp [hnone])⟩
    | inr hlarge =>
      split
      · exact ⟨_, rfl⟩
      · exact ⟨_, if_neg (by omega)⟩
  obtain ⟨e, he⟩ := herror
  rw [stoui_error_eq.mpr he]
  intro hok
  cases hok

theorem stoui_of_not_notRead {t : Text} (h : ¬ NotRead t) : ∃ n, stoui t = .ok n := by
  cases hu : stoui t with
  | ok n => exact ⟨n, rfl⟩
  | error e =>
    have hl := stoui_error_eq.mp hu
    unfold stoul at hl
    split at hl
    rename_i negative rest hsign
    have hdigits : leadingDigits t = rest.takeWhile Char.isDigit := by rw [leadingDigits, hsign]
    rw [NotRead, hdigits] at h
    dsimp only at hl
    split at hl
    · rename_i hnone
      exact absurd (.inl (by simpa using hnone)) h
    split at hl
    · cases hl
    · rename_i hlarge
      exact absurd (.inr (by omega)) h

theorem stoui_of_denotes {t : Text} {n : Nat} (h : Denotes t n) (hlt : n < 2 ^ 32) :
    stoui t = .ok (UInt32.ofNat n) := by
  obtain ⟨hne, hdigits, rfl⟩ := h
  have hl := stoul_of_digits hne (List.all_eq_true.mp hdigits) (by omega)
  rw [stoui, hl]
  simp [Except.map]

variable [Platform]

/-- The places where a number is typed, with the variables in scope there. -/
inductive NumberSite where
  | addtocart (prod : Product)
  | changeqty (invalid_qty : Bool) (sel_upc : SKU)
  | orderZip (order : Transaction) (addr : ShippingAddress)
  | accountZip (addr : ShippingAddress)
  | orderIndex

/-- `main` goes on with a number. -/
def NumberSite.use (logged_in : User) : NumberSite → UInt32 → ClientM Proc
  | .addtocart prod, qty => do
    mainshell (← onCart logged_in fun store cart =>
      if qty = 1 then cart.addProduct store prod else cart.addProductQty store prod qty)
  | .changeqty _ sel_upc, new_qty =>
    if !logged_in.shopping_cart.checkCart sel_upc then cartview logged_in
    else do
      cartview (← onCart logged_in fun store cart =>
        cart.changeUPCQuantity store (fun UPC => local_storage.getProduct UPC) sel_upc new_qty)
  | .orderZip order addr, zip =>
    waitAt logged_in (.orderAddr order (.country (addr.changeZip zip)))
  | .accountZip addr, zip => waitAt logged_in (.accountAddr (.country (addr.changeZip zip)))
  | .orderIndex, t_idx =>
    match orderAt logged_in.transaction_history t_idx with
    | none => tshell logged_in
    | some t => do
      showOrder t
      tshell logged_in

/-- `main` reports that a text is no number. -/
def NumberSite.report (logged_in : User) : NumberSite → ClientM Proc
  | .addtocart _ => mainshell logged_in
  | .changeqty invalid_qty _ => cartshell logged_in invalid_qty
  | .orderZip order _ => orderaddr logged_in order
  | .accountZip _ => accshell logged_in
  | .orderIndex => tshell logged_in

def NumberSite.enter (s : NumberSite) (logged_in : User) (t : Text) : ClientM Proc :=
  match stoui t with
  | .ok n => s.use logged_in n
  | .error .invalid_argument => s.report logged_in
  | .error e => .fail e

/-- A line that holds the text leads to the place where `main` reads it. -/
structure EnteredAtSites (t : Text) : Prop where
  addtocart : ∀ u line upc_s rest, split line ' ' = "addtocart".toList :: upc_s :: t :: rest →
    Proc.step ⟨u, .mainshell⟩ line = (do
      match ← Prog.attempt (do local_storage.getProduct (← .ofExcept (stoul upc_s))) with
      | .error .system_error | .error .invalid_argument => mainbby u
      | .error e => .fail e
      | .ok prod => (NumberSite.addtocart prod).enter u t)
  changeqty : ∀ u invalid_qty line upc_s sel_upc rest,
    split line ' ' = "changeqty".toList :: upc_s :: t :: rest → u.shopping_cart.isEmpty = false →
      stoul upc_s = .ok sel_upc → Proc.step ⟨u, .cartshell invalid_qty⟩ line =
        (NumberSite.changeqty invalid_qty sel_upc).enter u t
  orderZip : ∀ u order addr, Proc.step ⟨u, .orderAddr order (.zip addr)⟩ t =
    (NumberSite.orderZip order addr).enter u t
  accountZip : ∀ u addr, Proc.step ⟨u, .accountAddr (.zip addr)⟩ t =
    (NumberSite.accountZip addr).enter u t
  orderIndex : ∀ u line rest, split line ' ' = t :: rest → t ≠ "exit".toList → t ≠ "back".toList →
    Proc.step ⟨u, .tshell⟩ line = NumberSite.orderIndex.enter u t

/-- Whatever number `main` goes on with, it is the one that was typed, and the
order shown for it is the one at that index or none. -/
structure UsedAsTyped (t : Text) : Prop where
  denotes : ∀ n, stoui t = .ok n → Denotes t n.toNat
  shown : ∀ history n, stoui t = .ok n → orderAt history n = none ∨
    ∃ i, Denotes t (i + 1) ∧ orderAt history n = history.transaction_list[i]?

theorem entered_at_sites (t : Text) : EnteredAtSites t where
  addtocart u line upc_s rest h := by
    change mainCommand u (split line ' ') = _
    rw [h, mainCommand, if_neg (by decide), if_pos rfl, addtocart]
    congr 1
    funext r
    cases r with
    | error e => cases e <;> rfl
    | ok prod =>
      simp only [NumberSite.enter]
      cases stoui t with
      | ok n => rfl
      | error e => cases e <;> rfl
  changeqty u invalid_qty line upc_s sel_upc rest h hcart hupc := by
    change cartCommand u invalid_qty (split line ' ') = _
    rw [h, cartCommand, if_neg (by decide), if_neg (by decide), if_neg (by decide), if_pos rfl,
      changeqty, if_neg (by simp [hcart]), hupc, NumberSite.enter]
    cases stoui t with
    | ok n => rfl
    | error e => cases e <;> rfl
  orderZip u order addr := by
    change orderAddr u order (.zip addr) t = _
    rw [orderAddr, orderAddrStep, NumberSite.enter]
    unfold number
    cases stoui t with
    | ok n => rfl
    | error e => cases e <;> rfl
  accountZip u addr := by
    change accountAddr u (.zip addr) t = _
    rw [accountAddr, accountAddrStep, NumberSite.enter]
    unfold number
    cases stoui t with
    | ok n => rfl
    | error e => cases e <;> rfl
  orderIndex u line rest h hexit hback := by
    change orders u (split line ' ') = _
    rw [h, orders, if_neg hexit, if_neg hback, NumberSite.enter]
    cases stoui t with
    | ok n => rfl
    | error e => cases e <;> rfl

/-- Index zero shows nothing, every other one the order at its place. -/
theorem orderAt_eq (history : TransactionHistory) (n : UInt32) : orderAt history n = none ∨
    ∃ i, n.toNat = i + 1 ∧ orderAt history n = history.transaction_list[i]? := by
  unfold orderAt
  split
  · rename_i hlt
    right
    have hpos : 1 ≤ n := by
      by_contra hnot
      have hzero : n = 0 := by
        apply UInt32.toNat_inj.mp
        have hn := mt UInt32.le_iff_toNat_le.mpr hnot
        simp only [UInt32.toNat_one, UInt32.toNat_zero] at hn ⊢
        omega
      subst hzero
      exact absurd hlt (by decide)
    have hle := UInt32.le_iff_toNat_le.mp hpos
    have hsub := UInt32.toNat_sub_of_le n 1 hpos
    rw [UInt32.toNat_one] at hle hsub
    exact ⟨n.toNat - 1, by omega, by rw [hsub]⟩
  · exact .inl rfl

/-- Exactly the texts that are not read, and the numerals below 2^32, are used
as they are typed. -/
theorem used_as_typed_iff (t : Text) :
    EnteredAtSites t ∧ (UsedAsTyped t ↔ NotRead t ∨ ∃ n < 2 ^ 32, Denotes t n) := by
  refine ⟨entered_at_sites t, ?_, ?_⟩
  · intro h
    by_cases hread : NotRead t
    · exact .inl hread
    · obtain ⟨n, hn⟩ := stoui_of_not_notRead hread
      exact .inr ⟨n.toNat, n.toNat_lt, h.denotes n hn⟩
  · intro h
    have hden : ∀ n, stoui t = .ok n → Denotes t n.toNat := by
      intro n hn
      cases h with
      | inl hnot => exact absurd hn (stoui_of_notRead hnot n)
      | inr hnum =>
        obtain ⟨m, hlt, hm⟩ := hnum
        rw [stoui_of_denotes hm hlt] at hn
        cases hn
        rwa [UInt32.toNat_ofNat_of_lt' hlt]
    refine ⟨hden, fun history n hn => ?_⟩
    cases orderAt_eq history n with
    | inl hnone => exact .inl hnone
    | inr hsome =>
      obtain ⟨i, hi, hat⟩ := hsome
      exact .inr ⟨i, by rw [← hi]; exact hden n hn, hat⟩

end OnlineShoppingCenter

namespace OnlineShoppingCenter

open TextCodec EffectProgram StorageSystem

attribute [local instance] posix

/-- Trailing letters, a sign and the bits above 32 are dropped: 4294967301 of a
product are five in the cart. -/
theorem five_for_4294967301 :
    ¬ UsedAsTyped "5abc".toList ∧ ¬ UsedAsTyped "-1".toList ∧ ¬ UsedAsTyped "4294967301".toList ∧
      ((run sys (session "testuser003".toList ["addtocart 653569401025 4294967301".toList])
        sampleWorld).1.toOption.map fun r =>
          r.2.logged_in.shopping_cart.getCount 653569401025) = some 5 := by
  refine ⟨fun h => ?_, fun h => ?_, fun h => ?_, by decide +kernel⟩
  · have hdigits := (h.denotes 5 (by decide +kernel)).2.1
    exact absurd hdigits (by decide)
  · have hdigits := (h.denotes 4294967295 (by decide +kernel)).2.1
    exact absurd hdigits (by decide)
  · have hvalue := (h.denotes 5 (by decide +kernel)).2.2
    exact absurd hvalue (by decide +kernel)

end OnlineShoppingCenter
