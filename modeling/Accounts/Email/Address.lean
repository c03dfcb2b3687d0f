import Accounts.Domain.Ascii
import Accounts.Email.Literal
/-!
# E-mail addresses

The last `@` of an address divides the mailbox from the domain.  A mailbox has
between 1 and 64 characters, all of them from a fixed set.  A domain has at most
255 characters.  It is a host name, or ends with a network address in brackets;
or it is an international name whose ASCII form is one of these.
-/

namespace Accounts.Email

/-- A character of a mailbox.  Letters include the two that lower-case to an ASCII
letter. -/
def isMailboxChar (c : Char) : Bool :=
  c.isAlphanum || ".!#$%&'*+/=?^_`\x7b|\x7d~-".toList.contains c ||
    c == '\u017F' || c == '\u212A'

/-- A mailbox. -/
def isMailbox (cs : List Char) : Bool :=
  cs != [] && cs.length ≤ 64 && cs.all isMailboxChar

/-- A label of a host name. -/
def isHostLabel (label : List Char) : Bool :=
  label != [] && label.length ≤ 63 && label.all (fun c => c.isAlphanum || c == '-') &&
    label.head? != some '-' && label.getLast? != some '-'

/-- A host name. -/
def isHost (cs : List Char) : Bool := (Domain.labelsOf cs).all isHostLabel

/-- A character of a network address in brackets. -/
def isLiteralChar (c : Char) : Bool := isHex c || c == ':' || c == '.'

/-- A text that ends with a network address in brackets. -/
def endsWithLiteral (cs : List Char) : Bool :=
  match cs.reverse with
  | ']' :: back =>
    match back.dropWhile isLiteralChar with
    | '[' :: _ => isNetworkAddress (back.takeWhile isLiteralChar).reverse
    | _ => false
  | _ => false

/-- A domain in ASCII. -/
def isAsciiDomain (cs : List Char) : Bool := isHost cs || endsWithLiteral cs

/-- The domain of an address. -/
def isDomain (cs : List Char) : Bool :=
  cs.length ≤ 255 &&
    (isAsciiDomain cs || match Domain.toAscii cs with
      | some ascii => isAsciiDomain ascii
      | none => false)

/-- Mailbox and domain of an address. -/
def split (cs : List Char) : Option (List Char × List Char) :=
  let domain := cs.reverse.takeWhile (· ≠ '@')
  if domain.length = cs.length then none
  else some (cs.take (cs.length - domain.length - 1), domain.reverse)

/-- A text that is an e-mail address. -/
def isAddress (s : String) : Bool :=
  match split s.toList with
  | some (mailbox, domain) => isMailbox mailbox && isDomain domain
  | none => false

example : isAddress "ada@example.com" = true := by decide
example : isAddress "ada@example@com" = false := by decide

end Accounts.Email
