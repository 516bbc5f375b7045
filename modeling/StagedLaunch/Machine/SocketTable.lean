import StagedLaunch.Text.Blank
import StagedLaunch.Text.Lines
import StagedLaunch.Text.Numeral

/-!
# The table of local sockets

The system lists its sockets one a line under a header. The second column of a line is the local address, whose port follows
the last colon in base sixteen. `hasLocalPort` finds a port among them.
-/

namespace StagedLaunch.SocketTable

/-- What follows the last colon of a column, if it has one. -/
def afterColon? (cs : List Char) : Option (List Char) :=
  if cs.contains ':' then some (cs.reverse.takeWhile (· != ':')).reverse else none

/-- The local port that a line gives, if its second column can be read. -/
def localPort? (line : List Char) : Option Nat :=
  match columns line with
  | _ :: address :: _ => (afterColon? address).bind (readNatural 16 65536)
  | _ => none

/-- A line after the header has a local port. -/
def hasLocalPort (table : String) (port : UInt16) : Bool :=
  ((lines table.toList).drop 1).any fun line => localPort? line == some port.toNat

end StagedLaunch.SocketTable
