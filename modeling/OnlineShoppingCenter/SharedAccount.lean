import OnlineShoppingCenter.Booking
import OnlineShoppingCenter.Integrity
import OnlineShoppingCenter.Login

/-!
# One account in several sessions

Every store of a user writes the order list from the history of the session
that stores. The orders placed stay listed exactly as long as each store comes
from a session that knows all of them.
-/
namespace OnlineShoppingCenter

open TextCodec ColumnFamilies EffectProgram StorageSystem

variable [Platform]

/-- The lines of the order list under a name. -/
def linesOnFile (w : World) (username : Text) : List Text :=
  match w.users[username]? with
  | some e => orderLines e
  | none => []

/-- The lines that a store of the user writes. -/
def User.listed (u : User) : List Text :=
  (finalizedIds u.transaction_history).map uuid_unparse_lower

def Call.lists (line : Text) : Call → Bool
  | .storeUser u => decide (line ∈ u.listed)
  | _ => false

/-- The lines of the orders placed: the order has been stored and after it a
user that lists it, which is how a checkout ends. -/
def placedLines : Journal → List Text
  | [] => []
  | call :: rest =>
    (match call.placed with
      | some t =>
        if rest.any (·.lists (uuid_unparse_lower t.transaction_id))
        then [uuid_unparse_lower t.transaction_id] else []
      | none => []) ++ placedLines rest

/-- Every order placed is in the order list. -/
def OrdersListed (username : Text) (s : World × Journal) : Prop :=
  ∀ line ∈ placedLines s.2, line ∈ linesOnFile s.1 username

/-- A user that is stored knows of every order placed so far. -/
def Remembers (s : World × Journal) : Call → Prop
  | .storeUser u => ∀ line ∈ placedLines s.2, line ∈ u.listed
  | _ => True

section Placed

variable {l : Journal} {call : Call} {line : Text}

theorem mem_placedLines_snoc : line ∈ placedLines (l ++ [call]) ↔ line ∈ placedLines l ∨
    call.lists line = true ∧ ∃ t ∈ placedOrders l, uuid_unparse_lower t.transaction_id = line := by
  induction l with
  | nil =>
    cases hcall : call.placed <;> simp [placedLines, placedOrders, hcall]
  | cons first l ih =>
    rw [List.cons_append, placedLines, placedLines, List.mem_append, List.mem_append, ih]
    cases hfirst : first.placed with
    | none => simp [placedOrders, hfirst]
    | some t =>
      simp only [List.any_append, List.any_cons, List.any_nil, Bool.or_false, placedOrders,
        List.filterMap_cons, hfirst, List.mem_cons, exists_eq_or_imp]
      by_cases hline : uuid_unparse_lower t.transaction_id = line
      · subst hline
        cases hany : l.any (·.lists (uuid_unparse_lower t.transaction_id)) <;>
          cases hlists : call.lists (uuid_unparse_lower t.transaction_id) <;> simp
      · have hne : line ≠ uuid_unparse_lower t.transaction_id := Ne.symm hline
        simp [hline, hne]

theorem placedLines_snoc_of_not (h : ∀ line, call.lists line = false) :
    (line ∈ placedLines (l ++ [call]) ↔ line ∈ placedLines l) := by
  rw [mem_placedLines_snoc, h line]
  simp

end Placed

section Listed

variable {w : World} {u : User} {username : Text} {id : Uuid}

theorem linesOnFile_putUser (w : World) (u : User) :
    linesOnFile (w.putUser u) u.user_name = u.listed := by
  unfold linesOnFile World.putUser
  rw [Database.getElem?_put_self]
  exact orderLines_overlay u _

/-- An id that is listed is among those that are loaded. -/
theorem mem_orderIds {lines : List Text} (h : uuid_unparse_lower id ∈ lines) (tid : Uuid) :
    id ∈ orderIds lines tid := by
  induction lines generalizing tid with
  | nil => cases h
  | cons line lines ih =>
    rw [orderIds, List.mem_cons]
    cases List.mem_cons.mp h with
    | inl heq =>
      left
      rw [← heq, parse_unparse]
      rfl
    | inr hmem => exact .inr (ih hmem _)

theorem StorageSystem.LoadedHead.listed {K : World → Prop} {entry : Entry UserKey}
    (h : LoadedHead K username entry u) (hid : uuid_unparse_lower id ∈ orderLines entry) :
    uuid_unparse_lower id ∈ u.listed := by
  obtain ⟨ts, hts, hloaded⟩ := h.history
  have hmem := mem_orderIds hid Platform.indeterminate_uuid
  rw [User.listed, hts, finalizedIds_loaded hloaded]
  exact List.mem_map_of_mem hmem

/-- A login keeps what the order list says of the orders. -/
theorem wp_getUser_listed (w : World) (username : Text) :
    wp db.exact (getUser username) w
      (fun u w' => (u.Sound ∧ u.user_name = username) ∧
        ∀ id, uuid_unparse_lower id ∈ linesOnFile w username →
          uuid_unparse_lower id ∈ linesOnFile w' username)
      (fun _ w' => ∀ id, uuid_unparse_lower id ∈ linesOnFile w username →
        uuid_unparse_lower id ∈ linesOnFile w' username) := by
  have hK : Restockable fun w' => ∀ id, uuid_unparse_lower id ∈ linesOnFile w username →
      uuid_unparse_lower id ∈ linesOnFile w' username := fun _ _ _ hw' _ => hw'
  apply wp_mono (wp_getUser_keeps hK (fun _ => id) _)
  · rintro u w' ⟨hw', entry, -, hu⟩
    have hname : u.user_name = username := by
      obtain ⟨user, pay, cart, hhead, -, -, rfl⟩ := hu
      exact hhead.name
    exact ⟨⟨hu.sound, hname⟩, hw'⟩
  · exact fun _ _ h => h.1
  · intro entry w' user pay hentry _ hhead _ id hid
    have hget := (openEntry_eq_some.mp hentry).2
    have hline : uuid_unparse_lower id ∈ orderLines entry := by
      simpa only [linesOnFile, hget] using hid
    have hput := linesOnFile_putUser w' (withPayment user pay)
    rw [← hhead.name]
    change _ ∈ linesOnFile _ (withPayment user pay).user_name
    rw [hput]
    exact hhead.listed hline

end Listed

/-! The sessions of one user. `pending` is the line of an order that has been
stored without the user. -/

/-- Between the two stores of a checkout a session calls nothing else. -/
def Call.Ordered (username : Text) (pending : Option Text) : Call → Prop
  | .storeUser u => u.user_name = username ∧ ∀ line ∈ pending, line ∈ u.listed
  | .getUser name => name = username ∧ pending = none
  | .setQuantity p _ | .storeProduct p => p.is_set = true ∧ pending = none
  | .storeTransaction t => t.is_finalized = true ∧ pending = none
  | .getProducts | .getProduct _ | .uuid_generate | .gmtime | .ask _ | .showOrder _ => pending = none

def Call.pending : Call → Option Text
  | .storeTransaction t => some (uuid_unparse_lower t.transaction_id)
  | _ => none

/-- What a session relies on in the answers. -/
def Call.Trusted : (op : Call) → Except Exn op.Ret → Prop
  | .getUser username, r => ∀ u, r = .ok u → u.Sound ∧ u.user_name = username
  | .getProduct _, r =>
    (∀ p, r = .ok p → p.is_set = true) ∧ ∀ e, r = .error e → e ≠ .runtime_error
  | .setQuantity p new_quantity, r => r = .ok (p.withQuantity new_quantity)
  | .storeTransaction _, r => r = .ok ()
  | _, _ => True

def account (username : Text) : Contract clientSig Exn (Option Text) where
  pre := Call.Ordered username
  post _ op r pending := pending = op.pending ∧ op.Trusted r

theorem wp_account {username : Text} {op : Call} {pending : Option Text}
    {Q : op.Ret → Option Text → Prop} {E : Exn → Option Text → Prop}
    (hop : op.Ordered username pending) (h : ∀ r, op.Trusted r → Ends Q E r op.pending) :
    wp (account username) (request op) pending Q E := by
  apply wp_perform.mpr
  refine ⟨hop, ?_, ?_⟩
  · rintro a _ ⟨rfl, ha⟩
    exact h (.ok a) ha
  · rintro e _ ⟨rfl, he⟩
    exact h (.error e) he

/-- A call with nothing pending. -/
theorem wp_account_quiet {username : Text} {op : Call} {pending : Option Text} {P : Prop}
    (hop : op.Ordered username pending) (hpending : op.pending = none) (h : P) :
    wp (account username) (request op) pending (fun _ pending' => pending' = none ∧ P)
      fun _ pending' => pending' = none := by
  apply wp_account hop
  intro r _
  rw [hpending]
  cases r with
  | ok a => exact ⟨rfl, h⟩
  | error e => rfl

theorem listed_addTransaction {u : User} {t : Transaction} (ht : t.is_finalized = true) :
    uuid_unparse_lower t.transaction_id ∈
      User.listed { u with
        shopping_cart := {}
        transaction_history := u.transaction_history.addTransaction t } := by
  simp [User.listed, finalizedIds, TransactionHistory.addTransaction, ht]

/-- A session stores its user under the name it was called with. -/
def accountSpec (username : Text) : SessionSpec (account username) where
  holds pending u _ := pending = none ∧ u.user_name = username
  charging pending u t _ := pending = none ∧ u.user_name = username ∧ t.is_finalized = true
  rest pending := pending = none
  failed _ pending := pending = none
  okQty _ := True
  rest_of_holds h := h.1
  failed_of_holds h _ := h.1
  rest_of_refused h := h
  forget h := h
  ask h := wp_account_quiet h.1 rfl h.2
  showOrder h := wp_account_quiet h.1 rfl h.2
  getProducts h := wp_account_quiet h.1 rfl h.2
  getProduct h := by
    refine wp_account h.1 ?_
    intro r hr
    cases r with
    | ok p => exact ⟨⟨rfl, h.2⟩, hr.1 p rfl⟩
    | error e => exact ⟨⟨rfl, h.2⟩, hr.2 e rfl⟩
  setItem h _ _ _ := wp_account_quiet ⟨h.2, by simp [h.1]⟩ rfl h.2
  removeItem h _ := wp_account_quiet ⟨h.2, by simp [h.1]⟩ rfl h.2
  removeCopy h _ _ _ := wp_account_quiet ⟨h.2, by simp [h.1]⟩ rfl h.2
  emptyCart h _ := wp_account_quiet ⟨h.2, by simp [h.1]⟩ rfl h.2
  buyCart h _ _ := wp_account_quiet h.1 rfl h.2
  setAddress h := h
  setPayment h := h
  storeAddress h _ _ := wp_account_quiet ⟨h.2, by simp [h.1]⟩ rfl h.2
  storePayment h _ _ := wp_account_quiet ⟨h.2, by simp [h.1]⟩ rfl h.2
  startCharge h _ := by
    refine wp_account h.1 ?_
    intro r _
    cases r with
    | ok date => exact ⟨rfl, h.2, rfl⟩
    | error e => rfl
  chargeItem h hp _ := by
    refine wp_account ⟨hp, h.1⟩ ?_
    rintro r rfl
    refine wp_account ⟨Product.withQuantity_is_set hp _, rfl⟩ ?_
    intro r _
    cases r with
    | ok _ => exact ⟨rfl, h.2⟩
    | error e => rfl
  finishCharge := by
    rintro pending u t ⟨hpending, hname, ht⟩
    refine wp_account ⟨ht, hpending⟩ ?_
    rintro r rfl
    refine wp_account_quiet ?_ rfl hname
    refine ⟨hname, ?_⟩
    rintro _ ⟨⟩
    exact listed_addTransaction ht

theorem account_session (username : Text) (lines : List Text) :
    wp (account username) (session username lines) none (fun _ pending => pending = none)
      fun _ pending => pending = none := by
  have hlogin : (accountSpec username).Login username none := by
    refine wp_account ⟨rfl, rfl⟩ ?_
    intro r hr
    cases r with
    | ok u => exact ⟨⟨rfl, (hr u rfl).2⟩, (hr u rfl).1⟩
    | error e => rfl
  apply wp_mono ((accountSpec username).keeps_session lines hlogin fun _ => trivial)
  · exact fun _ _ h => h.1.rest
  · exact fun _ _ h => h

section Serves

variable {ι : Type} [DecidableEq ι] {username : Text} {w w' : World} {l : Journal} {op : Call}
  {pending : Option Text}

/-- What a call may do to the order list of its user. -/
def Call.Files (w w' : World) : Call → Prop
  | .storeUser u => w'.users = (w.putUser u).users
  | .getUser username => ∀ id, uuid_unparse_lower id ∈ linesOnFile w username →
    uuid_unparse_lower id ∈ linesOnFile w' username
  | _ => w'.users = w.users

theorem method_files (w : World) (hop : op.Ordered username pending) :
    op.Trusted (run db op.method w).1 ∧ op.Files w (run db op.method w).2 := by
  apply answered_of_wp (P := fun r w' => op.Trusted r ∧ op.Files w w')
  cases op with
  | getUser name =>
    apply wp_mono (wp_getUser_listed w name)
    · rintro u w' ⟨hu, hw'⟩
      exact ⟨fun _ hr => Except.ok.inj hr ▸ hu, hw'⟩
    · exact fun _ _ hw' => ⟨nofun, hw'⟩
  | storeUser u => exact wp_storeUser.mpr ⟨trivial, rfl⟩
  | getProducts =>
    apply wp_bind.mpr
    apply wp_listProducts.mpr
    exact wp_ofExcept.mpr ⟨fun _ _ => ⟨trivial, rfl⟩, fun _ _ => ⟨trivial, rfl⟩⟩
  | getProduct UPC =>
    apply wp_getProduct
    · exact fun p hp => ⟨⟨fun _ hr => Except.ok.inj hr ▸ hp.sound.2, nofun⟩, rfl⟩
    · exact fun e he _ => ⟨⟨nofun, fun _ hr => Except.error.inj hr ▸ he⟩, rfl⟩
  | setQuantity p n => exact (wp_setQuantity hop.1).mpr ⟨rfl, rfl⟩
  | storeProduct p => exact (wp_storeProduct hop.1).mpr ⟨trivial, rfl⟩
  | storeTransaction t => exact (wp_storeTransaction hop.1).mpr ⟨rfl, rfl⟩
  | uuid_generate | gmtime => exact wp_exact_perform.mpr ⟨trivial, rfl⟩
  | ask question | showOrder t => exact ⟨trivial, rfl⟩

theorem placedLines_placed {line : Text} (h : line ∈ placedLines l) :
    ∃ t ∈ placedOrders l, uuid_unparse_lower t.transaction_id = line := by
  induction l using List.reverseRecOn with
  | nil => cases h
  | append_singleton l call ih =>
    have hmono : ∀ t ∈ placedOrders l, t ∈ placedOrders (l ++ [call]) := by
      intro t ht
      simp [placedOrders] at ht ⊢
      exact .inl ht
    rcases mem_placedLines_snoc.mp h with hold | ⟨-, t, ht, hline⟩
    · obtain ⟨t, ht, hline⟩ := ih hold
      exact ⟨t, hmono t ht, hline⟩
    · exact ⟨t, hmono t ht, hline⟩

/-- The list stays complete exactly when a user that is stored knows of every
order. -/
theorem ordersListed_step (hop : op.Ordered username pending) (h : OrdersListed username (w, l)) :
    OrdersListed username (sys.logged op (w, l)).2 ↔ Remembers (w, l) op := by
  have hfiles := (method_files w hop).2
  change OrdersListed username ((run db op.method w).2, l ++ [op]) ↔ _
  have hquiet : (∀ line, op.lists line = false) →
      (run db op.method w).2.users = w.users →
        OrdersListed username ((run db op.method w).2, l ++ [op]) := by
    intro hlists hsame line hline
    rw [linesOnFile, hsame]
    exact h line ((placedLines_snoc_of_not hlists).mp hline)
  cases op with
  | storeUser u =>
    have hfile : linesOnFile (run db (Call.storeUser u).method w).2 username = u.listed := by
      rw [← hop.1, ← linesOnFile_putUser w u]
      unfold linesOnFile
      rw [hfiles]
    unfold OrdersListed Remembers
    simp only [hfile]
    constructor
    · exact fun hall line hline => hall line (mem_placedLines_snoc.mpr (.inl hline))
    · intro hall line hline
      rcases mem_placedLines_snoc.mp hline with hold | ⟨hnew, -⟩
      · exact hall line hold
      · exact of_decide_eq_true hnew
  | getUser name =>
    obtain ⟨rfl, -⟩ := hop
    apply iff_of_true _ trivial
    intro line hline
    have hlists : ∀ line, Call.lists line (.getUser name) = false := fun _ => rfl
    have hold := (placedLines_snoc_of_not hlists).mp hline
    obtain ⟨t, -, rfl⟩ := placedLines_placed hold
    exact hfiles _ (h _ hold)
  | setQuantity | storeProduct | storeTransaction | getProducts | getProduct | uuid_generate
  | gmtime | ask | showOrder => exact iff_of_true (hquiet (fun _ => rfl) hfiles) trivial

/-- Each order is placed, or its session is about to store the user. -/
def AllPending (s : World × Journal) (pending : ι → Option Text) : Prop :=
  ∀ t ∈ placedOrders s.2, uuid_unparse_lower t.transaction_id ∈ placedLines s.2 ∨
    ∃ i, pending i = some (uuid_unparse_lower t.transaction_id)

theorem serves_account (username : Text) :
    Serves sys.logged (fun _ : ι => account username) AllPending fun _ _ => True := by
  rintro i op ⟨w, l⟩ pending h - hop
  refine ⟨op.pending, ⟨rfl, (method_files w hop).1⟩, ?_⟩
  change AllPending ((run db op.method w).2, l ++ [op]) _
  intro t ht
  have hself : Function.update pending i op.pending i = op.pending := Function.update_self _ _ _
  have hother : ∀ j, j ≠ i → Function.update pending i op.pending j = pending j :=
    fun j hj => Function.update_of_ne hj _ _
  have hnew : t ∈ placedOrders l ∨ op = .storeTransaction t := by
    rw [placedOrders, List.filterMap_append, List.mem_append] at ht
    rcases ht with hold | hcall
    · exact .inl hold
    · right
      cases op <;> simp [Call.placed] at hcall
      exact congrArg Call.storeTransaction hcall.symm
  rcases hnew with hold | rfl
  · rcases h t hold with hplaced | ⟨j, hj⟩
    · exact .inl (mem_placedLines_snoc.mpr (.inl hplaced))
    · by_cases hji : j = i
      · subst hji
        left
        apply mem_placedLines_snoc.mpr
        cases op with
        | storeUser u => exact .inr ⟨decide_eq_true (hop.2 _ hj), t, hold, rfl⟩
        | getUser | setQuantity | storeProduct | storeTransaction =>
          rw [hop.2] at hj
          cases hj
        | getProducts | getProduct | uuid_generate | gmtime | ask | showOrder =>
          rw [hop] at hj
          cases hj
      · exact .inr ⟨j, (hother j hji).trans hj⟩
  · exact .inr ⟨i, hself⟩

end Serves

/-- In every run of sessions of one user the order list has every order placed,
exactly as long as each user that is stored knows of all of them. At the prompts
every order stored has been placed. -/
theorem orders_listed_iff {ι : Type} [DecidableEq ι] (w : World) (username : Text)
    (lines : ι → List Text) (schedule : List ι) :
    let p := clients w fun i => (username, lines i)
    ((∀ turns, turns <+: schedule → OrdersListed username (p.run sys.logged turns).state) ↔
        p.Meets sys.logged Remembers schedule) ∧
      ((∀ i, AtPrompt ((p.run sys.logged schedule).threads i)) →
        ∀ t ∈ placedOrders (p.run sys.logged schedule).state.2,
          uuid_unparse_lower t.transaction_id ∈ placedLines (p.run sys.logged schedule).state.2) := by
  intro p
  have hstart : AllPending p.state fun _ : ι => none := by
    intro t ht
    cases ht
  have hsessions : ∀ i, wp (account username) (p.threads i) none (fun _ pending => pending = none)
      fun _ pending => pending = none := fun i => account_session username (lines i)
  constructor
  · apply Pool.holds_iff_meets (serves_account username) _ hstart hsessions
    · intro line hline
      cases hline
    · rintro i op ⟨w, l⟩ pending - hop h
      exact ordersListed_step hop h
  · intro hprompt t ht
    obtain ⟨pending, hpending, hthreads⟩ := Pool.run_keeps (serves_account username) hstart
      hsessions schedule (Pool.meets_true _ _ _)
    apply (hpending t ht).resolve_right
    rintro ⟨i, hi⟩
    have hnone : pending i = none :=
      rest_of_atPrompt (· = none) (hprompt i) (fun _ hask => hask) (hthreads i)
    rw [hnone] at hi
    cases hi

end OnlineShoppingCenter

namespace OnlineShoppingCenter

open TextCodec EffectProgram

attribute [local instance] posix

/-- One session orders a pen, the other one is logged in meanwhile and then puts
a pen into its cart. -/
def twoSessions : Fin 2 → List Text
  | 0 => ["addtocart 7", "cart", "checkout", "y", "y", "y"].map String.toList
  | 1 => ["addtocart 7"].map String.toList

def lossTurns : List (Fin 2) := List.replicate 4 ⟨1, Nat.one_lt_two⟩ ++
  List.replicate 40 ⟨0, Nat.two_pos⟩ ++ List.replicate 10 ⟨1, Nat.one_lt_two⟩

def twoClients : Pool clientSig Exn (Trail × Proc) (World × Journal) (Fin 2) :=
  clients smallWorld fun i => ("testuser001".toList, twoSessions i)

theorem order_lost :
    (∀ i, AtPrompt ((twoClients.run sys.logged lossTurns).threads i)) ∧
      (placedOrders (twoClients.run sys.logged lossTurns).state.2).length = 1 ∧
        linesOnFile (twoClients.run sys.logged lossTurns).state.1 "testuser001".toList = [] := by
  decide +kernel

end OnlineShoppingCenter
