import OnlineShoppingCenter.CoupledSession
import OnlineShoppingCenter.Inventory
import OnlineShoppingCenter.LoadingRules
import OnlineShoppingCenter.Posix
import OnlineShoppingCenter.SampleData

/-!
# Looking while another one buys

Looking reads snapshots and writes them back. A session that buys does not
notice another one that looks, as long as each of these writes finds the number
that it writes.
-/
namespace OnlineShoppingCenter

open TextCodec ColumnFamilies EffectProgram StorageSystem

variable [Platform]

/-- What a session does that only looks. -/
inductive Reading where
  | getUser (username : Text)
  | getProducts
  | getProduct (UPC : SKU)
  | getTransaction (id : Uuid)

def Reading.Ret : Reading → Type
  | .getUser _ => User
  | .getProducts => List SKU
  | .getProduct _ => Product
  | .getTransaction _ => Transaction

abbrev readingSig : Signature := ⟨Reading, Reading.Ret⟩

def Reading.method : (op : Reading) → StorageM op.Ret
  | .getUser username => StorageSystem.getUser username
  | .getProducts => StorageSystem.getProducts
  | .getProduct UPC => StorageSystem.getProduct UPC
  | .getTransaction id => StorageSystem.getTransaction id

/-- The calls that looking never makes are left out. -/
def DbCall.Looks : DbCall → Prop
  | .writeOrder .. | .uuid_generate | .gmtime => False
  | .openUser _ | .openProduct _ | .openOrder _ | .listProducts | .writeUser .. | .writeProduct .. => True

section Looks

theorem looks_query (op : DbCall) (h : op.Looks) : (query op).Only DbCall.Looks := Prog.only_perform h

theorem looks_getProduct (UPC : SKU) : (getProduct UPC).Only DbCall.Looks := by
  rw [getProduct_eq]
  apply (looks_query (.openProduct _) trivial).bind
  intro r
  cases r with
  | none => trivial
  | some e =>
    apply (Prog.only_ofExcept _).bind
    intro p
    exact (looks_query (.writeProduct _ _) trivial).bind fun _ => trivial

theorem looks_getProducts : getProducts.Only DbCall.Looks :=
  (looks_query .listProducts trivial).bind fun _ => Prog.only_ofExcept _

theorem looks_storeUser (u : User) : (storeUser u).Only DbCall.Looks :=
  looks_query (.writeUser _ _) trivial

theorem looks_loadItems (items : List Text) (c : ShoppingCart) : (loadItems items c).Only DbCall.Looks := by
  induction items generalizing c with
  | nil => trivial
  | cons item rest ih =>
    apply (Prog.only_ofExcept _).bind
    rintro ⟨UPC, qty⟩
    apply (looks_getProduct UPC).bind
    intro p
    rw [ShoppingCart.addProductQty_local]
    exact ih _

theorem looks_getTransaction (id : Uuid) : (getTransaction id).Only DbCall.Looks := by
  rw [getTransaction_eq]
  apply (looks_query (.openOrder _) trivial).bind
  intro r
  cases r with
  | none => trivial
  | some e => exact (looks_loadItems _ _).bind fun _ => Prog.only_ofExcept _

theorem looks_loadOrders (lines : List Text) (tid : Uuid) (orders : TransactionHistory) :
    (loadOrders lines tid orders).Only DbCall.Looks := by
  induction lines generalizing tid orders with
  | nil => trivial
  | cons line rest ih => exact (looks_getTransaction _).bind fun _ => ih _ _

theorem looks_loadRest (entry : Entry UserKey) (user : User) :
    (loadRest entry user).Only DbCall.Looks := by
  apply (looks_storeUser user).bind
  intro _
  apply (Prog.only_ofExcept _).bind
  intro pay
  cases pay with
  | none => exact (looks_loadItems _ _).bind fun _ => trivial
  | some cc =>
    have hpay : (user.changeCreditCard storeUser cc).Only DbCall.Looks :=
      (looks_storeUser _).bind fun _ => trivial
    exact hpay.bind fun user => (looks_loadItems _ _).bind fun _ => trivial

theorem looks_getUser (username : Text) : (getUser username).Only DbCall.Looks := by
  rw [getUser_eq]
  apply (looks_query (.openUser username) trivial).bind
  intro r
  cases r with
  | none => trivial
  | some entry =>
    apply (looks_loadOrders _ _ _).bind
    intro orders
    exact (Prog.only_ofExcept _).bind fun _ => looks_loadRest _ _

theorem looks_method (op : Reading) : op.method.Only DbCall.Looks := by
  cases op with
  | getUser username => exact looks_getUser username
  | getProducts => exact looks_getProducts
  | getProduct UPC => exact looks_getProduct UPC
  | getTransaction id => exact looks_getTransaction id

end Looks

/-- The two sessions. -/
inductive Party where
  | browser
  | buyer
  deriving DecidableEq

/-- A session that only looks, in whatever way, and one that types lines. Each
turn is one database call. -/
def twoParties (w : World) (browse : Prog readingSig Exn (Trail × Proc)) (username : Text)
    (lines : List Text) : Pool storageSig Exn (Trail × Proc) World Party where
  threads
    | .browser => browse.interp Reading.method
    | .buyer => fine (session username lines)
  state := w

/-- What a login reads of a record. -/
def loadedTexts (e : Entry UserKey) : Entry UserKey := Function.update e .cc_cv2 none

/-- The user whose record a program is about to open. -/
def userToOpen : StorageM (Trail × Proc) → Option Text
  | .call (.openUser username) _ => some username
  | _ => none

/-- A write leaves the number on hand as it is, and what a login of the buyer is
about to read. -/
def Harmless (buyer : StorageM (Trail × Proc)) (w : World) : DbCall → Prop
  | .writeProduct name batch =>
    match openEntry w.products name with
    | some e => stockOf (batch.overlay e) = stockOf e
    | none => False
  | .writeUser name batch =>
    match userToOpen buyer with
    | some username => (openEntry (w.users.put name batch) username).map loadedTexts =
        (openEntry w.users username).map loadedTexts
    | none => True
  | _ => True

instance : Fintype UserKey where
  elems := {.shipaddr_name, .shipaddr_street, .shipaddr_city, .shipaddr_state, .shipaddr_zip,
    .shipaddr_country, .cc_num, .cc_exp, .cc_cv2, .orders, .items_in_cart}
  complete key := by cases key <;> decide

instance (buyer : StorageM (Trail × Proc)) (w : World) : DecidablePred (Harmless buyer w)
  | .writeProduct name batch =>
    match h : openEntry w.products name with
    | some e => decidable_of_iff (stockOf (batch.overlay e) = stockOf e) (by simp only [Harmless, h])
    | none => isFalse (by simp [Harmless, h])
  | .writeUser name batch =>
    match h : userToOpen buyer with
    | some username => decidable_of_iff
        ((openEntry (w.users.put name batch) username).map loadedTexts =
          (openEntry w.users username).map loadedTexts) (by simp only [Harmless, h])
    | none => isTrue (by simp [Harmless, h])
  | .openUser _ | .openProduct _ | .openOrder _ | .listProducts | .writeOrder .. | .uuid_generate
  | .gmtime => isTrue trivial

/-- `getUser` once the record has been opened. -/
def openedUser (username : Text) : Option (Entry UserKey) → StorageM User
  | none => .fail .system_error
  | some entry => do
    let orders ← loadOrders (orderLines entry) Platform.indeterminate_uuid {}
    let zip ← .ofExcept (loadedZip entry)
    loadRest entry { User.new username orders with shipping_address := addressOf entry zip }

/-- A session once `getUser` has been answered. -/
def loggedIn (lines : List Text) : Except Exn User → ClientM (Trail × Proc)
  | .ok user => do (← mainbby user).play lines
  | .error .system_error => ({} : Proc).play lines
  | .error e => .fail e

/-- A session after its first database call. -/
def afterOpen (username : Text) (lines : List Text) (r : Except Exn (Option (Entry UserKey))) :
    StorageM (Trail × Proc) :=
  (Prog.ofExcept r >>= openedUser username).andThen fun u => fine (loggedIn lines u)

section Login

variable {username : Text} {lines : List Text}

theorem fine_session (username : Text) (lines : List Text) :
    fine (session username lines) = .call (.openUser username) (afterOpen username lines) := by
  have hcall : fine (session username lines) =
      (StorageSystem.getUser username).andThen fun u => fine (loggedIn lines u) := by
    change (StorageSystem.getUser username).andThen _ = _
    congr 1
    funext u
    cases u with
    | ok user => rfl
    | error e => cases e <;> rfl
  rw [hcall, getUser_eq]
  change Prog.call _ _ = _
  congr 1

theorem openedUser_loadedTexts (r : Option (Entry UserKey)) :
    openedUser username (r.map loadedTexts) = openedUser username r := by
  cases r <;> rfl

theorem coupled_loadRest (entry : Entry UserKey) {u u' : User} (hu : u.Alike u') :
    Coupled SameCall User.Alike (loadRest entry u) (loadRest entry u') := by
  apply (coupled_storeUser u u').bind
  intro _ _ _
  apply (coupled_ofExcept_self (loadPayment entry)).bind
  rintro pay _ rfl
  have hitems : ∀ {v v' : User}, v.Alike v' → Coupled SameCall User.Alike
      (do
        let cart ← loadItems (cartLines entry) v.shopping_cart
        return { v with shopping_cart := cart })
      (do
        let cart ← loadItems (cartLines entry) v'.shopping_cart
        return { v' with shopping_cart := cart }) := fun hv =>
    (coupled_loadItems _ hv.shopping_cart).bind fun _ _ hc =>
      .ret ⟨hv.shipping_address, hv.payment_info, hv.history, hc⟩
  cases pay with
  | none => exact hitems hu
  | some cc =>
    have hpay : Coupled SameCall User.Alike (u.changeCreditCard storeUser cc)
        (u'.changeCreditCard storeUser cc) :=
      (coupled_storeUser _ _).bind fun _ _ _ =>
        .ret ⟨hu.shipping_address, rfl, hu.history, hu.shopping_cart⟩
    exact hpay.bind fun _ _ hv => hitems hv

theorem coupled_openedUser (r : Option (Entry UserKey)) :
    Coupled SameCall User.Alike (openedUser username r) (openedUser username r) := by
  cases r with
  | none => exact .fail _
  | some entry =>
    apply (coupled_loadOrders _ _ rfl).bind
    intro orders orders' horders
    apply (coupled_ofExcept_self (loadedZip entry)).bind
    rintro zip _ rfl
    exact coupled_loadRest entry ⟨rfl, rfl, horders, rfl⟩

theorem coupled_loggedIn (lines : List Text) {r r' : Except Exn User} (h : Outcomes User.Alike r r') :
    Coupled SameRequest (fun _ _ => True) (loggedIn lines r) (loggedIn lines r') := by
  cases h with
  | ok hu => exact (steps_mainbby hu).bind fun _ _ hp => coupled_play hp lines
  | error e =>
    cases e with
    | system_error =>
      have hproc : ({} : Proc).Alike {} := ⟨⟨rfl, rfl, rfl, rfl⟩, .exited⟩
      exact coupled_play hproc lines
    | invalid_argument | out_of_range | runtime_error | undefined => exact .fail _

/-- Once its record has been opened, a session looks the same to itself. -/
theorem coupled_afterOpen {r r' : Option (Entry UserKey)} (h : r.map loadedTexts = r'.map loadedTexts) :
    Coupled SameCall (fun _ _ => True) (afterOpen username lines (.ok r)) (afterOpen username lines (.ok r')) := by
  unfold afterOpen
  rw [Prog.ofExcept_ok, Prog.ofExcept_ok, Prog.ret_bind, Prog.ret_bind, ← openedUser_loadedTexts r, h,
    openedUser_loadedTexts]
  exact (coupled_openedUser r').andThen fun _ _ hu =>
    (coupled_loggedIn lines hu).interp fun _ _ _ => coupled_method

end Login

section Beside

variable {username : Text} {lines : List Text}

/-- Before the record of the buyer is opened, and after. -/
inductive Beside (username : Text) (lines : List Text) :
    StorageM (Trail × Proc) → World → StorageM (Trail × Proc) → World → Prop where
  | before {w w' : World} : SameWorld w w' →
      (openEntry w.users username).map loadedTexts = (openEntry w'.users username).map loadedTexts →
      Beside username lines (fine (session username lines)) w (fine (session username lines)) w'
  | after {m m' : StorageM (Trail × Proc)} {w w' : World} : SameWorld w w' →
      Coupled SameCall (fun _ _ => True) m m' → Beside username lines m w m' w'

theorem Beside.world {m m' : StorageM (Trail × Proc)} {w w' : World}
    (h : Beside username lines m w m' w') : SameWorld w w' := by
  cases h with
  | before hw _ => exact hw
  | after hw _ => exact hw

theorem Beside.advance {m m' : StorageM (Trail × Proc)} {w w' : World}
    (h : Beside username lines m w m' w') :
    Beside username lines (advance db m w).1 (advance db m w).2 (advance db m' w').1 (advance db m' w').2 := by
  cases h with
  | before hw hrecord =>
    rw [fine_session]
    exact .after hw (coupled_afterOpen hrecord)
  | after hw hm =>
    obtain ⟨hm', hw'⟩ := hm.advance respects_sameCall hw
    exact .after hw' hm'

theorem SameWorld.write_right {w w' : World} {op : DbCall} {m : StorageM (Trail × Proc)}
    (hw : SameWorld w w') (hop : Harmless m w' op) (hlooks : op.Looks) : SameWorld w (db op w').2 := by
  cases op with
  | openUser | openProduct | openOrder | listProducts => exact hw
  | writeUser name batch =>
    simp only [db, Database.store_eq_put]
    exact ⟨hw.products, hw.orders, hw.uuids, hw.drawn, hw.clock, hw.ticks⟩
  | writeProduct name batch =>
    simp only [db, Database.store_eq_put]
    cases he : openEntry w'.products name with
    | none => simp only [Harmless, he] at hop
    | some e =>
      simp only [Harmless, he] at hop
      exact ⟨hw.products.put_right he hop, hw.orders, hw.uuids, hw.drawn, hw.clock, hw.ticks⟩
  | writeOrder | uuid_generate | gmtime => exact hlooks.elim

theorem Beside.write {m m' : StorageM (Trail × Proc)} {w w' : World} {op : DbCall}
    (h : Beside username lines m w m' w') (hop : Harmless m' w' op) (hlooks : op.Looks) :
    Beside username lines m w m' (db op w').2 := by
  have hw := h.world.write_right hop hlooks
  cases h with
  | after _ hm => exact .after hw hm
  | before _ hrecord =>
    apply Beside.before hw
    cases op with
    | openUser | openProduct | openOrder | listProducts => exact hrecord
    | writeUser name batch =>
      rw [fine_session] at hop
      simp only [db, Database.store_eq_put]
      exact hrecord.trans (Eq.symm hop)
    | writeProduct name batch =>
      simp only [db, Database.store_eq_put]
      exact hrecord
    | writeOrder | uuid_generate | gmtime => exact hlooks.elim

/-- The buyer alone has ended when the buyer beside the browser has. -/
theorem Beside.ended {m m' : StorageM (Trail × Proc)} {w w' : World} {r : Except Exn (Trail × Proc)}
    (h : Beside username lines m w m' w') (hr : m' = Pool.ended r) : ∃ r', m = Pool.ended r' := by
  cases h with
  | before _ _ =>
    rw [fine_session] at hr
    cases r <;> cases hr
  | after _ hm =>
    cases hm with
    | ret _ => exact ⟨.ok _, rfl⟩
    | fail e => exact ⟨.error e, rfl⟩
    | call _ _ => cases r <;> cases hr

end Beside

theorem onHand_of_sameWorld {w w' : World} (h : SameWorld w w') :
    onHand w.products = onHand w'.products := by
  funext UPC
  have hentry := congrArg (Option.map Prod.fst) (h.products.entry (to_string UPC.toNat))
  unfold onHand
  cases he : w.products[to_string UPC.toNat]? with
  | none =>
    cases he' : w'.products[to_string UPC.toNat]? with
    | none => rfl
    | some e' => simp [he, he'] at hentry
  | some e =>
    cases he' : w'.products[to_string UPC.toNat]? with
    | none => simp [he, he'] at hentry
    | some e' =>
      have hstored : (e .on_hand).map stoul = (e' .on_hand).map stoul := by
        simpa [he, he', stockOf] using hentry
      rw [Option.bind_some, Option.bind_some]
      cases hget : e .on_hand <;> cases hget' : e' .on_hand <;> simp_all

/-- In every run in which each write of the browser is harmless, the numbers on
hand are at each point what the buyer alone would have made of them, and in the
end what its session would have left. -/
theorem browsing_unnoticed (w : World) (browse : Prog readingSig Exn (Trail × Proc)) (username : Text)
    (lines : List Text) (schedule : List Party)
    (h : (twoParties w browse username lines).Spares db .buyer Harmless schedule) :
    let p := (twoParties w browse username lines).run db schedule
    onHand p.state.products =
        onHand ((twoParties w browse username lines).run db (schedule.filter (· = .buyer))).state.products ∧
      ((∃ r, p.threads .buyer = Pool.ended r) →
        onHand p.state.products = onHand (run sys (session username lines) w).2.products) := by
  intro p
  have hlooks : ∀ j, j ≠ .buyer → ((twoParties w browse username lines).threads j).Only DbCall.Looks := by
    intro j hj
    cases j with
    | browser => exact Prog.only_interp looks_method browse
    | buyer => exact absurd rfl hj
  have hsame : SameWorld w w := ⟨⟨rfl, fun _ => rfl⟩, ⟨rfl, fun _ => rfl⟩, rfl, rfl, rfl, rfl⟩
  have hstart : Beside username lines ((twoParties w browse username lines).threads .buyer)
      (twoParties w browse username lines).state
      ((twoParties w browse username lines).threads .buyer)
      (twoParties w browse username lines).state := .before hsame rfl
  have hend := Pool.run_beside (V := Beside username lines) (fun _ _ _ _ => Beside.advance)
    (fun _ _ _ _ _ hv hop => hv.write hop.1 hop.2) hstart (h.of_only hlooks)
  have hstock := onHand_of_sameWorld hend.world
  refine ⟨hstock.symm, ?_⟩
  rintro ⟨r, hr⟩
  have hturns : ∀ j ∈ schedule.filter (· = Party.buyer), j = .buyer := by simp
  have hown := Pool.run_own_turns (H := db) hturns (twoParties w browse username lines)
  have halone : run db (fine (session username lines)) w = run sys (session username lines) w :=
    run_interp (S := clientSig) db Call.method _ w
  obtain ⟨r', hr'⟩ := hend.ended hr
  rw [hr'] at hown
  rw [← hstock, ← halone]
  change run db (Pool.ended r') _ = run db (fine (session username lines)) w at hown
  rw [← hown]
  cases r' <;> rfl

end OnlineShoppingCenter

namespace OnlineShoppingCenter

open TextCodec EffectProgram

attribute [local instance] posix

/-- Look at the pens, twice. -/
def glances : Prog readingSig Exn (Trail × Proc) := do
  let _ ← Prog.perform (S := readingSig) (.getProduct 7)
  let _ ← Prog.perform (S := readingSig) (.getProduct 7)
  return ([], {})

def buyLines : List Text := ["addtocart 7", "cart", "checkout", "y", "y", "y"].map String.toList

/-- One look before the pen is bought and one after it. -/
def apartTurns : List Party :=
  [.browser, .browser] ++ List.replicate 40 .buyer ++ [.browser, .browser]

theorem glances_apart :
    let p := (twoParties smallWorld glances "testuser001".toList buyLines).run db apartTurns
    onHand p.state.products =
        onHand ((twoParties smallWorld glances "testuser001".toList buyLines).run db
          (apartTurns.filter (· = .buyer))).state.products ∧
      ((∃ r, p.threads .buyer = Pool.ended r) →
        onHand p.state.products =
          onHand (run sys (session "testuser001".toList buyLines) smallWorld).2.products) :=
  browsing_unnoticed smallWorld glances "testuser001".toList buyLines apartTurns (by decide +kernel)

/-- The pens are looked at, and the look ends after one of them has been bought. -/
def staleTurns : List Party := [.browser] ++ List.replicate 40 .buyer ++ [.browser]

theorem sale_undone :
    onHand ((twoParties smallWorld glances "testuser001".toList buyLines).run db
        staleTurns).state.products 7 = 3 ∧
      onHand ((twoParties smallWorld glances "testuser001".toList buyLines).run db
        (staleTurns.filter (· = .buyer))).state.products 7 = 2 ∧
      onHand (run sys (session "testuser001".toList buyLines) smallWorld).2.products 7 = 2 := by
  decide +kernel

end OnlineShoppingCenter
