import OnlineShoppingCenter.Posix
import OnlineShoppingCenter.StorageSystem

/-!
# The sample databases

`StorageSystem::initDB` destroys the three databases and fills them with users,
products and orders written out key by key.
-/
namespace OnlineShoppingCenter

open TextCodec ColumnFamilies

namespace StorageSystem

/-- Open an empty database, create the entries and write one batch for each. -/
def fill {K : Type} [DecidableEq K] (entries : List (Text × Batch K)) : Database K :=
  entries.foldl (fun db (name, batch) => db.write name batch)
    (entries.foldl (fun db (name, _) => db.create name) (Database.create ∅ kDefault))

def initUsers : List (Text × Batch UserKey) :=
  [("testuser001".toList, [
      (.items_in_cart, "".toList), (.shipaddr_name, "Test User, I".toList),
      (.shipaddr_street, "56 Park Circle".toList), (.shipaddr_city, "Starkville".toList),
      (.shipaddr_state, "MS".toList), (.shipaddr_zip, "39759".toList),
      (.shipaddr_country, "USA".toList), (.cc_num, "8299721390".toList),
      (.cc_exp, "06/20".toList), (.cc_cv2, "040".toList),
      (.orders,
        ("a4b1288b-606f-4437-a9d1-19834fa36953\nc0fad0d6-1e93-4f2f-9e92-1f1824c7bfcc\n" ++
          "73536a85-eafc-4dfb-946f-9e56f58e73be\n37781af8-21e9-41cb-b4cf-f23ae8fa6825").toList)]),
    ("testuser002".toList, [
      (.items_in_cart, "999992778878:2\n751492561585:2\n630125948637:1".toList),
      (.shipaddr_name, "Test User, II".toList), (.shipaddr_street, "424-2529 Wark St.".toList),
      (.shipaddr_city, "Victoria".toList), (.shipaddr_state, "BC".toList),
      (.shipaddr_zip, "V8T4G7".toList), (.shipaddr_country, "CA".toList), (.orders, "".toList)]),
    ("testuser003".toList, [
      (.items_in_cart, "".toList), (.orders, "".toList)]),
    ("testuser004".toList, [
      (.items_in_cart, "".toList), (.orders, "".toList)])]

def initProducts : List (Text × Batch ProductKey) :=
  [("653569401025".toList, [
      (.name, "Bop It".toList), (.category, "Children's Toys".toList),
      (.price, "23.80".toList), (.on_hand, "1".toList)]),
    ("9780345507754".toList, [
      (.name, "Mass Effect: Ascension (Paperback)".toList), (.category, "Books".toList),
      (.price, "6.99".toList), (.on_hand, "6".toList)]),
    ("630125948637".toList, [
      (.name, "AAA Duracel Batteries (Pack of 60)".toList),
      (.category, "Household Items".toList), (.price, "22.19".toList), (.on_hand, "12".toList)]),
    ("999992778878".toList, [
      (.name, "Memorex DVD-R 16x (Spindle of 100)".toList),
      (.category, "Household Items".toList), (.price, "27.89".toList), (.on_hand, "23".toList)]),
    ("751492561585".toList, [
      (.name, "PNY Attaché USB 2.0 Flash Drive 128GB".toList),
      (.category, "Small Electronics".toList), (.price, "31.99".toList),
      (.on_hand, "21".toList)]),
    ("653562346025".toList, [
      (.name, "Staples".toList), (.category, "Household Items".toList),
      (.price, "2.00".toList), (.on_hand, "89".toList)]),
    ("978091685754".toList, [
      (.name, "Corn".toList), (.category, "Household Items".toList), (.price, "6.99".toList),
      (.on_hand, "7".toList)]),
    ("630037948637".toList, [
      (.name, "Bread".toList), (.category, "Household Items".toList), (.price, "1.19".toList),
      (.on_hand, "12".toList)]),
    ("945682378878".toList, [
      (.name, "Paper".toList), (.category, "Household Items".toList), (.price, "0.99".toList),
      (.on_hand, "23".toList)]),
    ("452368735260".toList, [
      (.name, "Pens".toList), (.category, "Household Items".toList), (.price, "2.99".toList),
      (.on_hand, "21".toList)])]

def initOrders : List (Text × Batch OrderKey) :=
  [("a4b1288b-606f-4437-a9d1-19834fa36953".toList, [
      (.date, "Tue, 02 Sep 2016 11:04:07 +0000".toList), (.items, "9780345507754:1".toList),
      (.total, "7.99".toList), (.shipaddr_name, "Test User, I".toList),
      (.shipaddr_street, "56 Park Circle".toList), (.shipaddr_city, "Starkville".toList),
      (.shipaddr_state, "MS".toList), (.shipaddr_zip, "39759".toList),
      (.shipaddr_country, "USA".toList), (.cc_num, "8299721390".toList),
      (.cc_exp, "06/20".toList), (.cc_cv2, "040".toList)]),
    ("c0fad0d6-1e93-4f2f-9e92-1f1824c7bfcc".toList, [
      (.date, "Tue, 06 Sep 2016 13:10:27 +0000".toList), (.items, "9780345507754:24".toList),
      (.total, "191.76".toList), (.shipaddr_name, "Test User, I".toList),
      (.shipaddr_street, "603 Yellow Jacket Dr.".toList),
      (.shipaddr_city, "Starkville".toList), (.shipaddr_state, "MS".toList),
      (.shipaddr_zip, "39759".toList), (.shipaddr_country, "USA".toList),
      (.cc_num, "5034967580".toList), (.cc_exp, "12/18".toList), (.cc_cv2, "960".toList)]),
    ("73536a85-eafc-4dfb-946f-9e56f58e73be".toList, [
      (.date, "Tue, 07 Sep 2016 16:23:26 +0000".toList),
      (.items, "751492561585:1\n999992778878:1".toList), (.total, "74.98".toList),
      (.shipaddr_name, "Test User, I".toList),
      (.shipaddr_street, "603 Yellow Jacket Dr.".toList),
      (.shipaddr_city, "Starkville".toList), (.shipaddr_state, "MS".toList),
      (.shipaddr_zip, "39759".toList), (.shipaddr_country, "USA".toList),
      (.cc_num, "8299721390".toList), (.cc_exp, "06/20".toList), (.cc_cv2, "040".toList)]),
    ("37781af8-21e9-41cb-b4cf-f23ae8fa6825".toList, [
      (.date, "Tue, 10 Sep 2016 14:43:31 +0000".toList), (.items, "630125948637:1".toList),
      (.total, "22.19".toList), (.shipaddr_name, "Test User, I".toList),
      (.shipaddr_street, "56 Park Circle".toList), (.shipaddr_city, "Starkville".toList),
      (.shipaddr_state, "MS".toList), (.shipaddr_zip, "39759".toList),
      (.shipaddr_country, "USA".toList), (.cc_num, "8299721390".toList),
      (.cc_exp, "06/20".toList), (.cc_cv2, "040".toList)])]

/-- The source asks `userdb`, which it has just deleted, to create the entries of
the products. That call is undefined. Here the entries are those that the open
after it names, which creates the ones that are missing. -/
def initDB [Platform] (w : World) : World :=
  { w with users := fill initUsers, products := fill initProducts, orders := fill initOrders }

end StorageSystem

/-- What an evaluated run has returned. -/
theorem ok_of_isSome {α : Type} {r : Except Exn α} (h : r.toOption.isSome = true) :
    ∃ a, r = .ok a := by
  cases r with
  | ok a => exact ⟨a, rfl⟩
  | error e => cases h

theorem ok_of_mem {α : Type} {r : Except Exn α} {a : α} (h : a ∈ r.toOption) : r = .ok a := by
  cases r with
  | ok b => exact congrArg Except.ok (Option.some.inj h)
  | error e => cases h

theorem ok_of_any {α : Type} {x : Except Exn α} {P : α → Bool} (h : x.toOption.any P = true) :
    ∃ a, x = .ok a ∧ P a = true := by
  cases x with
  | ok a => exact ⟨a, rfl, h⟩
  | error e => cases h

attribute [local instance] posix

/-- An id generator that counts. -/
def sampleId (n : Nat) : Posix.Id :=
  let count := to_string n
  (Posix.uuid_parse ("00000000-0000-4000-8000-".toList ++
    List.replicate (12 - count.length) '0' ++ count)).getD Posix.nil

/-- The databases that `initDB` leaves. -/
def sampleWorld : World :=
  StorageSystem.initDB {
    users := ∅, products := ∅, orders := ∅, uuids := sampleId, drawn := 0
    clock := fun _ => "Wed, 30 Nov 2016 19:44:00 +0000".toList, ticks := 0 }

/-- A smaller shop: pens, one user with an address and a card, one without. -/
def smallWorld : World where
  users := StorageSystem.fill [
    ("testuser001".toList, [
      (.items_in_cart, "".toList), (.orders, "".toList), (.shipaddr_name, "I".toList),
      (.shipaddr_street, "Park".toList), (.shipaddr_city, "S".toList),
      (.shipaddr_state, "MS".toList), (.shipaddr_zip, "39".toList),
      (.shipaddr_country, "USA".toList), (.cc_num, "82".toList), (.cc_exp, "6".toList),
      (.cc_cv2, "6".toList)]),
    ("testuser003".toList, [(.items_in_cart, "".toList), (.orders, "".toList)])]
  products := StorageSystem.fill [("7".toList, [
    (.name, "Pens".toList), (.category, "Household Items".toList), (.price, "2.99".toList),
    (.on_hand, "3".toList)])]
  orders := StorageSystem.fill []
  uuids := sampleId
  drawn := 0
  clock := fun _ => "Wed, 30 Nov 2016 19:44:00 +0000".toList
  ticks := 0

end OnlineShoppingCenter
