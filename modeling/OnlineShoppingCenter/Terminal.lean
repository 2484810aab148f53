import OnlineShoppingCenter.SectionedLog
import OnlineShoppingCenter.Dialogue
import OnlineShoppingCenter.Posix

/-!
# What is printed

`main` prints through `g_print` and `g_printerr` with a format and its
arguments. The screens are lists of such lines. A screen opens with a line of
its own, its heading, so that what is on the terminal is a log in sections.
-/
namespace OnlineShoppingCenter

open TextCodec

/-- What is left to the C library: a float with two decimals, and a date without its zone. -/
class Terminal [Platform] where
  fixed2 : Flt → Text
  strftime_s : Tm → Text

@[reducible] def posixTerminal : @Terminal posix :=
  @Terminal.mk posix (Posix.decimal 2) fun t => t.take (t.length - 6)

variable [Platform]

/-- An argument by its conversion: `%s`, `%lu`, `%u` and `%04.2f`. -/
inductive Arg where
  | s (text : Text)
  | lu (n : UInt64)
  | u (n : UInt32)
  | f (x : Flt)

/-- `c_str()` as `%s` prints it. -/
def c_str (t : Text) : Text := t.takeWhile (· ≠ '\x00')

/-- Digits with zeros in front, as `%0*u` prints a number. -/
def zeroPadded (width : UInt32) (n : UInt32) : Text :=
  (to_string n.toNat).leftpad width.toNat '0'

def printf [Terminal] : Text → List Arg → Text
  | '%' :: 's' :: format, .s t :: args => c_str t ++ printf format args
  | '%' :: 'l' :: 'u' :: format, .lu n :: args => to_string n.toNat ++ printf format args
  | '%' :: 'u' :: format, .u n :: args => to_string n.toNat ++ printf format args
  | '%' :: '0' :: '*' :: 'u' :: format, .u width :: .u n :: args =>
    zeroPadded width n ++ printf format args
  | '%' :: '0' :: '4' :: '.' :: '2' :: 'f' :: format, .f x :: args =>
    Terminal.fixed2 x ++ printf format args
  | c :: format, args => c :: printf format args
  | [], _ => []

inductive Heading where
  | inventory | commands | cart | account | orders | confirmation | addressOnFile | paymentOnFile
  | entered
  deriving DecidableEq, Repr

def Heading.format : Heading → String
  | .inventory => "\n\x1b[1;4mCurrent inventory:\x1b[0m\n"
  | .commands => "\n\x1b[1;4mAvailable commands:\x1b[0m\n"
  | .cart => "\n\x1b[1;4mShopping cart:\x1b[0m\n"
  | .account => "\n\x1b[1;4mAccount Details:\x1b[0m\n"
  | .orders => "\n\x1b[1;4mOrder history:\x1b[0m\n"
  | .confirmation => "\n\x1b[1;4mORDER CONFIRMATION\x1b[0m\n\n"
  | .addressOnFile => "We have a shipping address on file for you.\n\n"
  | .paymentOnFile => "\nWe have the following payment method on file for you:\n"
  | .entered => "You entered:\n\n"

inductive Stream where
  | stdout | stderr
  deriving DecidableEq, Repr

/-- One call of `g_print` or `g_printerr`. -/
inductive Printed where
  | heading (h : Heading)
  | line (stream : Stream) (format : String) (args : List Arg)

namespace Printed

def stream : Printed → Stream
  | .heading _ => .stdout
  | .line stream _ _ => stream

def text [Terminal] : Printed → Text
  | .heading h => h.format.toList
  | .line _ format args => printf format.toList args

/-- The section a line opens. -/
def opens : Printed → Option Heading
  | .heading h => some h
  | .line .. => none

end Printed

abbrev Screen := List Printed

def out (format : String) (args : List Arg := []) : Printed := .line .stdout format args
def err (format : String) (args : List Arg := []) : Printed := .line .stderr format args

@[simp] theorem opens_heading (h : Heading) : (Printed.heading h).opens = some h := rfl
@[simp] theorem opens_out (format : String) (args : List Arg) : (out format args).opens = none := rfl
@[simp] theorem opens_err (format : String) (args : List Arg) : (err format args).opens = none := rfl

/-- The commands the menus offer. -/
inductive Command where
  | addtocart | cart | account | changeqty | remove | clear | checkout | addr | pay | orders | back
  | exit
  deriving DecidableEq, Repr

def Command.usage : Command → String
  | .addtocart => "  addtocart <UPC> [qty]     Add product to cart\n"
  | .cart => "  cart                      Manage shopping cart\n"
  | .account => "  account                   Manage OSC account\n"
  | .changeqty => "  changeqty <UPC> <qty>     Change quantity of item\n"
  | .remove => "  remove <UPC>              Remove item from cart\n"
  | .clear => "  clear                     Remove all items from cart\n"
  | .checkout => "  checkout                  Begin checkout process\n"
  | .addr => "  addr                      Change/set shipping address\n"
  | .pay => "  pay                       Change/set payment method\n"
  | .orders => "  orders                    View order history\n"
  | .back => "  back                      Back to main menu\n"
  | .exit => "  exit                      Log out and close OSC\n"

def menu (commands : List Command) : Screen :=
  .heading .commands :: (commands.map fun command => out command.usage) ++ [out "\n"]

def Question.text : Question → String
  | .shell => "\x1b[1m>>>\x1b[0m "
  | .useAddress => "Would you like to use this shipping address for this order [Y/n]? "
  | .isCorrect => "Is this correct [Y/n]? "
  | .keepAddress => "Would you like to keep this address on file [Y/n]?"
  | .usePayment => "Would you like to use this payment method for this order [Y/n]? "
  | .keepPayment => "Would you like to keep this payment method on file [Y/n]?"
  | .placeOrder => "Place order [Y/n]?"

end OnlineShoppingCenter
