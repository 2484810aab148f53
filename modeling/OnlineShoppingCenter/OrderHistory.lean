import OnlineShoppingCenter.InventoryScreens
import OnlineShoppingCenter.SampleData

/-!
# The numbers of the order history

The orders of an account are listed with numbers, padded with zeros to one
width. Such a number typed at the prompt behind the list is read as it was
printed and shows the order it stands before.
-/
namespace OnlineShoppingCenter

open TextCodec EffectProgram

section Padding

variable {width n : UInt32}

theorem zeroPadded_eq (width n : UInt32) : zeroPadded width n =
    List.replicate (width.toNat - (to_string n.toNat).length) '0' ++ to_string n.toNat := rfl

theorem isDigit_of_mem_zeroPadded {c : Char} (h : c ∈ zeroPadded width n) : c.isDigit = true := by
  rw [zeroPadded_eq] at h
  cases List.mem_append.mp h with
  | inl hzero =>
    rw [List.eq_of_mem_replicate hzero]
    rfl
  | inr hdigit => exact isDigit_of_mem_to_string hdigit

theorem zeroPadded_ne_nil (width n : UInt32) : zeroPadded width n ≠ [] := by
  rw [zeroPadded_eq]
  simp [to_string_ne_nil]

/-- Leading zeros do not change what is read. -/
theorem stoui_zeroPadded (width n : UInt32) : stoui (zeroPadded width n) = .ok n := by
  have hvalue : Nat.ofDigitChars 10 (zeroPadded width n) 0 = n.toNat := by
    rw [zeroPadded_eq, Nat.ofDigitChars_append, Nat.ofDigitChars_replicate_zero, Nat.mul_zero]
    simp [to_string]
  have hlt : n.toNat < 2 ^ 64 := by
    have := n.toNat_lt
    omega
  have hdigits : ∀ c ∈ zeroPadded width n, c.isDigit = true :=
    fun c hc => isDigit_of_mem_zeroPadded hc
  rw [stoui, stoul_of_digits (zeroPadded_ne_nil width n) hdigits (by omega), hvalue]
  simp [Except.map]

theorem length_zeroPadded (hwidth : 0 < width.toNat) (hn : n.toNat < 10 ^ width.toNat) :
    (zeroPadded width n).length = width.toNat := by
  have hdigits : (to_string n.toNat).length ≤ width.toNat :=
    (Nat.length_toDigits_le_iff (by omega) hwidth).mpr hn
  rw [zeroPadded_eq, List.length_append, List.length_replicate]
  omega

theorem split_zeroPadded (width n : UInt32) :
    split (zeroPadded width n) ' ' = [zeroPadded width n] := by
  apply split_field _ (zeroPadded_ne_nil width n)
  intro hspace
  cases isDigit_of_mem_zeroPadded hspace

theorem indexWidth_toNat {n : Nat} (h : n < 2 ^ 31) :
    (indexWidth n).toNat = max 3 (Nat.log 10 n + 1) := by
  have hlog : Nat.log 10 n ≤ n := Nat.log_le_self 10 n
  have hvalue : (UInt32.ofNat (Nat.log 10 n + 1)).toNat = Nat.log 10 n + 1 := by
    rw [UInt32.toNat_ofNat']
    omega
  unfold indexWidth
  dsimp only
  split
  · rename_i hshort
    rw [UInt32.lt_iff_toNat_lt, hvalue] at hshort
    change Nat.log 10 n + 1 < 3 at hshort
    change 3 = _
    omega
  · rename_i hlong
    rw [UInt32.lt_iff_toNat_lt, hvalue] at hlong
    change ¬ Nat.log 10 n + 1 < 3 at hlong
    omega

end Padding

variable [Platform]

/-- The number that the list gives to an order, counted from zero. -/
def indexText (history : TransactionHistory) (i : Nat) : Text :=
  zeroPadded (indexWidth history.transaction_list.length) (UInt32.ofNat (i + 1))

section Index

variable {history : TransactionHistory} {i : Nat}

/-- All numbers of a list are printed in one width. -/
theorem length_indexText (hlen : history.transaction_list.length < 2 ^ 31)
    (hi : i < history.transaction_list.length) :
    (indexText history i).length = (indexWidth history.transaction_list.length).toNat := by
  have hwidth := indexWidth_toNat hlen
  have hdigits : history.transaction_list.length < 10 ^ (Nat.log 10 history.transaction_list.length + 1) :=
    Nat.lt_pow_succ_log_self (by omega) _
  have hpow : 10 ^ (Nat.log 10 history.transaction_list.length + 1) ≤
      10 ^ (indexWidth history.transaction_list.length).toNat :=
    Nat.pow_le_pow_right (by omega) (by omega)
  apply length_zeroPadded
  · omega
  · rw [UInt32.toNat_ofNat']
    omega

/-- A number of the list picks the order it stands before. -/
theorem orderAt_index (hlen : history.transaction_list.length < 2 ^ 31)
    (hi : i < history.transaction_list.length) :
    orderAt history (UInt32.ofNat (i + 1)) = some history.transaction_list[i] := by
  have hone : (1 : UInt32) ≤ UInt32.ofNat (i + 1) := by
    rw [UInt32.le_iff_toNat_le, UInt32.toNat_ofNat']
    change 1 ≤ _
    omega
  have hvalue : (UInt32.ofNat (i + 1) - 1).toNat = i := by
    rw [UInt32.toNat_sub_of_le _ _ hone, UInt32.toNat_ofNat']
    change (i + 1) % 2 ^ 32 - 1 = i
    omega
  rw [orderAt, hvalue, if_pos (by omega), List.getElem?_eq_getElem hi]

/-- What stands in the list before an order, and its id. -/
def indexLine (history : TransactionHistory) (i : Nat) (t : Transaction) : Text :=
  indexText history i ++ ":\t".toList ++ uuid_unparse_lower t.transaction_id ++ "\n".toList

theorem c_str_uuid (id : Uuid) : c_str (uuid_unparse_lower id) = uuid_unparse_lower id := by
  rw [c_str, List.takeWhile_eq_self_iff]
  intro c hc
  have hchar := char_of_uuidText (Platform.unparse_text id) hc
  simp only [decide_eq_true_eq]
  rintro rfl
  revert hchar
  decide

theorem text_indexRow [Terminal] (t : Transaction) :
    (out "%0*u:\t%s\n" [.u (indexWidth history.transaction_list.length),
      .u (UInt32.ofNat (i + 1)), .s (uuid_unparse_lower t.transaction_id)]).text =
        indexLine history i t := by
  change indexText history i ++ ':' :: '\t' :: (c_str (uuid_unparse_lower t.transaction_id) ++ ['\n']) = _
  rw [c_str_uuid, indexLine]
  simp

theorem indexLine_printed [Terminal] {t : Transaction} (h : history.transaction_list[i]? = some t) :
    ∃ line ∈ historyLines history, line.text = indexLine history i t := by
  have hmem : (t, i + 1) ∈ history.transaction_list.zipIdx 1 := by
    rw [List.mk_mem_zipIdx_iff_le_and_getElem?_sub]
    exact ⟨by omega, h⟩
  have hrow : out "%0*u:\t%s\n" [.u (indexWidth history.transaction_list.length),
      .u (UInt32.ofNat (i + 1)), .s (uuid_unparse_lower t.transaction_id)] ∈ historyBody history :=
    List.mem_append_left _ (List.mem_flatMap.mpr ⟨(t, i + 1), hmem, List.mem_cons_self⟩)
  exact ⟨_, List.mem_cons_of_mem _ hrow, text_indexRow t⟩

end Index

namespace Console

variable {u : User} {s : Site World}

theorem quiet_bind {α β : Type} (m : ClientM α) (f : α → ClientM β) :
    quiet (m >>= f) = quiet m >>= fun a => quiet (f a) := Prog.interp_bind (S := clientSig) call m f

theorem wp_waitAt_shell {loc : Loc} (hloc : loc.question = some .shell)
    {Q : Proc → Site World → Prop} {E : Exn → Site World → Prop} :
    wp (terminal sys).exact (waitAt u loc) s Q E ↔
      Q ⟨u, loc⟩ ⟨s.world, s.screen ++ [out Question.shell.text]⟩ := by
  have hask : quiet (OnlineShoppingCenter.waitAt u loc) =
      quiet (request (.ask .shell)) >>= fun _ => pure ⟨u, loc⟩ := by
    rw [OnlineShoppingCenter.waitAt, hloc]
    exact quiet_bind _ _
  rw [waitAt, hloc, wp_bind, wp_terminal_display, hask, wp_bind]
  exact wp_terminal_call

variable [Terminal]

/-- An order and the prompt behind it. -/
def orderScreen (t : Transaction) : Screen := orderLines t ++ [out Question.shell.text]

theorem wp_index {i : Nat} (hlen : u.transaction_history.transaction_list.length < 2 ^ 31)
    (hi : i < u.transaction_history.transaction_list.length) :
    wp (terminal sys).exact (step ⟨u, .tshell⟩ (indexText u.transaction_history i)) s
      (fun p s' => p = ⟨u, .tshell⟩ ∧
        s' = ⟨s.world, s.screen ++ orderScreen u.transaction_history.transaction_list[i]⟩)
      fun _ _ => False := by
  have hword : ∀ word : Text, 'e' ∈ word ∨ 'b' ∈ word → indexText u.transaction_history i ≠ word := by
    rintro word hletter rfl
    cases hletter with
    | inl h => cases isDigit_of_mem_zeroPadded h
    | inr h => cases isDigit_of_mem_zeroPadded h
  have hindex : stoui (indexText u.transaction_history i) = .ok (UInt32.ofNat (i + 1)) :=
    stoui_zeroPadded _ _
  have hsplit : split (indexText u.transaction_history i) ' ' = [indexText u.transaction_history i] :=
    split_zeroPadded _ _
  unfold step
  dsimp only
  rw [hsplit, orders, if_neg (hword _ (.inl (by decide))), if_neg (hword _ (.inr (by decide))), hindex]
  dsimp only
  rw [orderAt_index hlen hi]
  dsimp only
  rw [showOrder, wp_bind, wp_bind, wp_terminal_display]
  apply wp_terminal_call.mpr
  apply (wp_waitAt_shell rfl).mpr
  refine ⟨rfl, ?_⟩
  rw [orderScreen, List.append_assoc]

/-- The list of the orders, and the prompt behind it. -/
def historyScreen (history : TransactionHistory) : Screen :=
  historyLines history ++ historyHelp ++ [out Question.shell.text]

theorem wp_ordersCommand (hne : u.transaction_history.transaction_list ≠ []) :
    wp (terminal sys).exact (step ⟨u, .accshell⟩ "orders".toList) s
      (fun p s' => p = ⟨u, .tshell⟩ ∧ s' = ⟨s.world, s.screen ++ historyScreen u.transaction_history⟩)
      fun _ _ => False := by
  have hsplit : split "orders".toList ' ' = ["orders".toList] := by decide
  have hcommand : accountCommand u ["orders".toList] =
      if u.transaction_history.transaction_list.isEmpty then do
        display [out "No past orders.\n"]
        accshell u
      else history u := rfl
  unfold step
  dsimp only
  rw [hsplit, hcommand, if_neg (by simpa using hne), history, wp_bind, wp_terminal_display, thelp,
    wp_bind, wp_terminal_display]
  apply (wp_waitAt_shell rfl).mpr
  refine ⟨rfl, ?_⟩
  rw [historyScreen, List.append_assoc, List.append_assoc, List.append_assoc]

/-- Numbers typed one after the other show their orders, and change nothing. -/
theorem wp_indices (hlen : u.transaction_history.transaction_list.length < 2 ^ 31)
    (picks : List (Fin u.transaction_history.transaction_list.length)) :
    wp (terminal sys).exact
      (play ⟨u, .tshell⟩ (picks.map fun i => indexText u.transaction_history i.val)) s
      (fun r s' => r.2 = ⟨u, .tshell⟩ ∧ s' = ⟨s.world, s.screen ++
        picks.flatMap fun i => orderScreen u.transaction_history.transaction_list[i]⟩)
      fun _ _ => False := by
  induction picks generalizing s with
  | nil => exact ⟨rfl, by simp⟩
  | cons i picks ih =>
    rw [List.map_cons, play, wp_bind]
    apply wp_mono (wp_index hlen i.isLt) _ fun _ _ h => h
    rintro p s' ⟨rfl, rfl⟩
    rw [wp_bind]
    apply wp_mono ih _ fun _ _ h => h
    rintro r s'' ⟨hr, rfl⟩
    refine ⟨hr, ?_⟩
    rw [List.flatMap_cons, ← List.append_assoc]
    rfl

/-- The order history asked for, and any orders picked from it by the numbers
they are printed with: each number stands in the list before the id of its
order, all in one width of at least three, and typing it shows that order. -/
theorem printed_index_shows (hne : u.transaction_history.transaction_list ≠ [])
    (hlen : u.transaction_history.transaction_list.length < 2 ^ 31)
    (picks : List (Fin u.transaction_history.transaction_list.length)) :
    3 ≤ (indexWidth u.transaction_history.transaction_list.length).toNat ∧
    (∀ i : Fin u.transaction_history.transaction_list.length,
      (∃ line ∈ historyLines u.transaction_history, line.text =
        indexLine u.transaction_history i u.transaction_history.transaction_list[i]) ∧
      (indexText u.transaction_history i).length =
        (indexWidth u.transaction_history.transaction_list.length).toNat) ∧
    ∃ trail, run (terminal sys) (play ⟨u, .accshell⟩
        ("orders".toList :: picks.map fun i => indexText u.transaction_history i.val)) s =
      (.ok (trail, ⟨u, .tshell⟩), ⟨s.world, s.screen ++ historyScreen u.transaction_history ++
        picks.flatMap fun i => orderScreen u.transaction_history.transaction_list[i]⟩) := by
  refine ⟨?_, ?_, ?_⟩
  · rw [indexWidth_toNat hlen]
    exact le_max_left _ _
  · intro i
    exact ⟨indexLine_printed (List.getElem?_eq_getElem i.isLt), length_indexText hlen i.isLt⟩
  · have hrun : wp (terminal sys).exact (play ⟨u, .accshell⟩
        ("orders".toList :: picks.map fun i => indexText u.transaction_history i.val)) s
        (fun r s' => r.2 = ⟨u, .tshell⟩ ∧ s' = ⟨s.world, s.screen ++
          historyScreen u.transaction_history ++
            picks.flatMap fun i => orderScreen u.transaction_history.transaction_list[i]⟩)
        fun _ _ => False := by
      rw [play, wp_bind]
      apply wp_mono (wp_ordersCommand hne) _ fun _ _ h => h
      rintro p s' ⟨rfl, rfl⟩
      rw [wp_bind]
      exact wp_mono (wp_indices hlen picks) (fun _ _ h => h) fun _ _ h => h
    obtain ⟨⟨trail, p⟩, s', heq, hp, hs'⟩ := exists_run_ok hrun
    dsimp only at hp
    subst hp hs'
    exact ⟨trail, heq⟩

end Console

end OnlineShoppingCenter

namespace OnlineShoppingCenter.Console

open TextCodec EffectProgram

attribute [local instance] posix posixTerminal

def toyOrder : Transaction := { transaction_amount := Binary32.round false (238 * 2 ^ 149) 10, is_finalized := true }
def bookOrder : Transaction := { transaction_amount := Binary32.round false (699 * 2 ^ 149) 100, is_finalized := true }

def twoOrders : User :=
  { user_name := "testuser001".toList,
    transaction_history := { transaction_list := [toyOrder, bookOrder] } }

/-- The second order is looked at, and then the first. -/
theorem two_indices_show : ∃ trail, run (terminal sys)
    (play ⟨twoOrders, .accshell⟩ ["orders".toList, "002".toList, "001".toList]) ⟨sampleWorld, []⟩ =
      (.ok (trail, ⟨twoOrders, .tshell⟩), ⟨sampleWorld,
        historyScreen twoOrders.transaction_history ++ (orderScreen bookOrder ++ orderScreen toyOrder)⟩) := by
  have hnumbers : indexText twoOrders.transaction_history 1 = "002".toList ∧
      indexText twoOrders.transaction_history 0 = "001".toList := by
    decide
  have hshown := (printed_index_shows (u := twoOrders) (s := ⟨sampleWorld, []⟩) (by decide) (by decide)
    [⟨1, by decide⟩, ⟨0, by decide⟩]).2.2
  simp only [List.map_cons, List.map_nil, hnumbers.1, hnumbers.2] at hshown
  obtain ⟨trail, hrun⟩ := hshown
  refine ⟨trail, hrun.trans ?_⟩
  rw [List.flatMap_cons, List.flatMap_cons, List.flatMap_nil, List.append_nil]
  rfl

end OnlineShoppingCenter.Console
