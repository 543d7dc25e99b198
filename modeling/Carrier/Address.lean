import Mathlib.Logic.Basic

/-! Addresses of `network/address.go`. The URL parser, the host and port functions
and the resolver are the Go library's and are given by their results. The lookup
cache only repeats earlier results of the resolver, as `UnifiedAddress` shows, so a
host always resolves the same way here. -/
namespace Carrier.Address

structure Resolver where
  trimSpace : String → String
  urlParse : String → Option (String × String)
  splitHostPort : String → Option (String × String)
  joinHostPort : String → String → String
  parseUint16 : String → Option UInt16
  parseIP : String → Bool
  lookupHost : String → Option (List String)

structure AddressInfo where
  protocol : String
  host : String
  port : UInt16
  deriving DecidableEq, Repr

variable (resolver : Resolver)

def AddressInfo.hostPort (info : AddressInfo) : String :=
  resolver.joinHostPort info.host (toString info.port.toNat)

def AddressInfo.string (info : AddressInfo) : String :=
  if info.protocol = "" then info.hostPort resolver
  else info.protocol ++ "://" ++ info.hostPort resolver

def parseAddress (address : String) : Option AddressInfo := do
  let (scheme, urlHost) ← resolver.urlParse address
  let (host, rawPort) ← resolver.splitHostPort urlHost
  let port ← resolver.parseUint16 rawPort
  some { protocol := scheme, host := host, port := port }

def toUnifiedHost (host : String) : Option String :=
  if resolver.parseIP host then some host
  else match resolver.lookupHost host with
    | none => none
    | some [] => none
    | some (first :: _) => some (if first = "::1" then "127.0.0.1" else first)

def toUnifiedAddress (address : String) : Option String := do
  let address := resolver.trimSpace address
  if address = "" then none
  else
    let info ← parseAddress resolver address
    let host ← toUnifiedHost resolver info.host
    some ({ info with host := host }.string resolver)

end Carrier.Address
