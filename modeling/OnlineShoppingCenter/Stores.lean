import OnlineShoppingCenter.StorageRules

/-!
# A store and the other entries

The entries are listed, the default entry and the target put in front, and the
batch written through the second handle. Nothing but the target is touched,
whichever entries there are.
-/
namespace ColumnFamilies.Database

open TextCodec

variable {K : Type} [DecidableEq K]

/-- What a store may do to a database, and how it names the entries. -/
structure OwnEntry (before after : Database K) (name : Text) (batch : Batch K) : Prop where
  default_first : (before.entryDescriptors name)[0]? = some kDefault
  target_second : (before.entryDescriptors name)[1]? = some name
  others_once : ∀ other ∈ before, other ≠ kDefault → other ≠ name →
    (before.entryDescriptors name).count other = 1
  no_others : ∀ other ∈ before.entryDescriptors name,
    other = kDefault ∨ other = name ∨ other ∈ before
  accepted : ∃ opened, before.openDB (before.entryDescriptors name) = some opened ∧
    after = opened.write name batch
  others : ∀ (other : Text) e, other ≠ name → before[other]? = some e → after[other]? = some e
  none_lost : ∀ other ∈ before, other ∈ after
  target : after[name]? = some (batch.overlay (before[name]?.getD Entry.empty))

omit [DecidableEq K] in
/-- An entry that is neither the default one nor the target is listed once. -/
theorem count_entryDescriptors {db : Database K} {name other : Text} (h : other ∈ db)
    (hd : other ≠ kDefault) (hn : other ≠ name) : (db.entryDescriptors name).count other = 1 := by
  have hlisted : other ∈ db.listEntries := mem_listEntries.mpr h
  unfold entryDescriptors
  rw [List.count_cons_of_ne (Ne.symm hd), List.count_cons_of_ne (Ne.symm hn),
    List.count_erase_of_ne hn, List.count_erase_of_ne hd]
  exact List.count_eq_one_of_mem db.nodup_listEntries hlisted

omit [DecidableEq K] in
theorem mem_entryDescriptors {db : Database K} {name other : Text}
    (h : other ∈ db.entryDescriptors name) : other = kDefault ∨ other = name ∨ other ∈ db := by
  unfold entryDescriptors at h
  rcases List.mem_cons.mp h with rfl | h
  · exact .inl rfl
  rcases List.mem_cons.mp h with rfl | h
  · exact .inr (.inl rfl)
  · exact .inr (.inr (mem_listEntries.mp (List.mem_of_mem_erase (List.mem_of_mem_erase h))))

theorem ownEntry_put (db : Database K) (name : Text) (batch : Batch K) :
    OwnEntry db (db.put name batch) name batch where
  default_first := rfl
  target_second := rfl
  others_once _ := count_entryDescriptors
  no_others _ := mem_entryDescriptors
  accepted := by
    refine ⟨_, ?_, rfl⟩
    rw [openDB, if_pos (listEntries_subset db name)]
  others := by
    intro other e hn he
    rw [getElem?_put, if_neg hn]
    split
    · rename_i hd
      rw [← hd, he, Option.getD_some]
    · exact he
  none_lost _ h := mem_put.mpr (.inr (.inr h))
  target := getElem?_put_self db name batch

end ColumnFamilies.Database

namespace OnlineShoppingCenter

open TextCodec ColumnFamilies EffectProgram StorageSystem

variable [Platform]

theorem run_storeProduct_unset {p : Product} (h : p.is_set = false) (w : World) :
    run db (storeProduct p) w = (.ok (), w) := by
  rw [storeProduct, if_pos h, run_ret]

theorem run_storeTransaction_open {t : Transaction} (h : t.is_finalized = false) (w : World) :
    run db (storeTransaction t) w = (.ok (), w) := by
  rw [storeTransaction, if_pos h, run_ret]

/-- Each store writes the entry of its own object, in its own database, and a
product that is not complete or an order not placed is not stored at all. -/
theorem stores_own_entry (w : World) :
    (∀ u : User, ∃ users, run db (storeUser u) w = (.ok (), { w with users := users }) ∧
        w.users.OwnEntry users u.user_name (userBatch u)) ∧
      (∀ p : Product, (p.is_set = false ∧ run db (storeProduct p) w = (.ok (), w)) ∨
        ∃ products, run db (storeProduct p) w = (.ok (), { w with products := products }) ∧
          w.products.OwnEntry products (to_string p.UPC.toNat) (productBatch p)) ∧
      ∀ t : Transaction, (t.is_finalized = false ∧ run db (storeTransaction t) w = (.ok (), w)) ∨
        ∃ orders, run db (storeTransaction t) w = (.ok (), { w with orders := orders }) ∧
          w.orders.OwnEntry orders (uuid_unparse_lower t.transaction_id) (orderBatch t) := by
  refine ⟨?_, ?_, ?_⟩
  · intro u
    exact ⟨_, run_storeUser w u, Database.ownEntry_put _ _ _⟩
  · intro p
    cases hp : p.is_set with
    | false => exact .inl ⟨rfl, run_storeProduct_unset hp w⟩
    | true => exact .inr ⟨_, run_storeProduct w hp, Database.ownEntry_put _ _ _⟩
  · intro t
    cases ht : t.is_finalized with
    | false => exact .inl ⟨rfl, run_storeTransaction_open ht w⟩
    | true => exact .inr ⟨_, run_storeTransaction w ht, Database.ownEntry_put _ _ _⟩

end OnlineShoppingCenter
