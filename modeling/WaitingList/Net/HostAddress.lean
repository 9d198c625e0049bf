import WaitingList.Net.IpAddress

namespace WaitingList

/-- A version 4 address. -/
structure HostAddress where
  first : Nat
  second : Nat
  third : Nat
  fourth : Nat
  deriving DecidableEq, Repr

namespace HostAddress

/-- The numbers of an address in order. -/
def octets (a : HostAddress) : List Nat := [a.first, a.second, a.third, a.fourth]

def text (a : HostAddress) : String := IpAddress.version4Text a.octets

def withPort (a : HostAddress) (port : Nat) : String := s!"{a.text}:{port}"

end HostAddress

end WaitingList
