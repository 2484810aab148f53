import OnlineShoppingCenter.MainLoop
import OnlineShoppingCenter.StorageRules
import OnlineShoppingCenter.SessionRules
import OnlineShoppingCenter.LoadingRules
import OnlineShoppingCenter.SequentialRules
import OnlineShoppingCenter.Posix
import OnlineShoppingCenter.SampleData
import OnlineShoppingCenter.Checkout
import OnlineShoppingCenter.Consent
import OnlineShoppingCenter.Inventory
import OnlineShoppingCenter.Stock
import OnlineShoppingCenter.Accounts
import OnlineShoppingCenter.Login
import OnlineShoppingCenter.Orders
import OnlineShoppingCenter.Ledger
import OnlineShoppingCenter.Integrity
import OnlineShoppingCenter.IntegrityRules
import OnlineShoppingCenter.Referential
import OnlineShoppingCenter.Exceptions
import OnlineShoppingCenter.Endings
import OnlineShoppingCenter.Accesses
import OnlineShoppingCenter.Questions
import OnlineShoppingCenter.WriteThrough
import OnlineShoppingCenter.Refusals
import OnlineShoppingCenter.CardStorage
import OnlineShoppingCenter.CardDialogue
import OnlineShoppingCenter.CartSessions
import OnlineShoppingCenter.Booking
import OnlineShoppingCenter.AddressStorage
import OnlineShoppingCenter.RoundTrips
import OnlineShoppingCenter.Stores
import OnlineShoppingCenter.Overloads
import OnlineShoppingCenter.DialogueCopies
import OnlineShoppingCenter.TypedNumbers
import OnlineShoppingCenter.Abandonment
import OnlineShoppingCenter.Catalogue
import OnlineShoppingCenter.CartReordering
import OnlineShoppingCenter.SharedAccount
import OnlineShoppingCenter.Coupling
import OnlineShoppingCenter.CoupledStorage
import OnlineShoppingCenter.CoupledSession
import OnlineShoppingCenter.Browsing
import OnlineShoppingCenter.Splitting
import OnlineShoppingCenter.SectionedLog
import OnlineShoppingCenter.Terminal
import OnlineShoppingCenter.Screens
import OnlineShoppingCenter.Console
import OnlineShoppingCenter.Layers
import OnlineShoppingCenter.Erasure
import OnlineShoppingCenter.CurrentScreens
import OnlineShoppingCenter.ScreenRules
import OnlineShoppingCenter.Displays
import OnlineShoppingCenter.MaskedCards
import OnlineShoppingCenter.AkinStorage
import OnlineShoppingCenter.AkinRequests
import OnlineShoppingCenter.UndisclosedCards
import OnlineShoppingCenter.Isolation
import OnlineShoppingCenter.OrderWrites
import OnlineShoppingCenter.InventoryScreens
import OnlineShoppingCenter.OrderHistory
import OnlineShoppingCenter.Counter
import OnlineShoppingCenter.CounterCommands
import OnlineShoppingCenter.CounterRefinement
import OnlineShoppingCenter.Resumption
