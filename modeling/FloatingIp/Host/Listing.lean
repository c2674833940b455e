import FloatingIp.Text.Blank

/-!
# Listings of addresses

An address listing has one line per address among other lines.  A line that carries an address
starts with the word `inet` or `inet6` and has the address with its prefix as second field; only
that field is compared, and as a whole, so that no address is taken for another of which it is a
part.
-/

namespace FloatingIp.Host.Listing

/-- The address text of a line, if the line carries one. -/
def addressOf? (line : List Char) : Option (List Char) :=
  match Text.fields line with
  | family :: cidr :: _ =>
    if family = "inet".toList || family = "inet6".toList then some cidr else none
  | _ => none

/-- Whether some line of `listing` carries exactly `cidr`. -/
def carries (listing cidr : String) : Bool :=
  (Text.lines listing.toList).any fun line => addressOf? line == some cidr.toList

end FloatingIp.Host.Listing
