/-
**Addresses of services.**

The address of a service may leave out its scheme and its port. Its full form has both; a colon is
taken for that of a port unless a closing bracket follows it. A listen address is a host and a port,
either of which may be left out.

* `Endpoint.url`: the full form of an address;
* `Listen.parse`: the host and port of a listen address.
-/

import Workyard.Text.Blank
import Workyard.Text.Numeral
import Workyard.Text.Split

namespace Workyard

namespace Endpoint

/-- The port of a worker if none is given. -/
def workerPort : Nat := 1234

/-- The port of a manager if none is given. -/
def managerPort : Nat := 1235

/-- The mark behind a scheme. -/
def schemeMark : List Char := [':', '/', '/']

/-- The scheme of an address without one. -/
def defaultScheme : List Char := ['h', 't', 't', 'p']

/-- The address without blanks around it and slashes behind it. -/
def bare (address : List Char) : List Char :=
  ((Text.trim address).reverse.dropWhile (· = '/')).reverse

/-- Whether an address without scheme has a port. -/
def hasPort (rest : List Char) : Bool :=
  match Text.splitLast? ':' rest with
  | some (_, behind) => !behind.contains ']'
  | none => false

/-- The full form of an address, with this port if it has none. -/
def url (port : Nat) (address : List Char) : List Char :=
  let address := bare address
  let (scheme, rest) := (Text.splitFirst? schemeMark address).getD (defaultScheme, address)
  scheme ++ schemeMark ++ rest ++ if hasPort rest then [] else ':' :: (toString port).toList

/-- The full form of a worker's address. -/
def workerUrl (address : String) : String := String.ofList (url workerPort address.toList)

/-- The full form of a manager's address. -/
def managerUrl (address : String) : String := String.ofList (url managerPort address.toList)

end Endpoint

/-- Where a service listens. -/
structure Listen where
  host : List Char
  port : Nat
deriving DecidableEq, Repr

namespace Listen

/-- The host that stands for all of a machine's addresses. -/
def anyHost : List Char := ['0', '.', '0', '.', '0', '.', '0']

/-- Where a worker listens if not told otherwise. -/
def worker : Listen := ⟨anyHost, Endpoint.workerPort⟩

/-- Where a manager listens if not told otherwise. -/
def manager : Listen := ⟨anyHost, Endpoint.managerPort⟩

/-- Why a listen address is refused: its port is no number of sixteen bits. -/
structure Fault where
  listen : List Char
  port : Text.NumeralFault
deriving DecidableEq, Repr

/-- The words for a refused address. -/
def Fault.message (fault : Fault) : String :=
  s!"invalid port in listen address {String.ofList fault.listen}: {fault.port.message}"

/-- The host and port of a listen address; without a port it is a manager's. -/
def parse (listen : List Char) : Except Fault Listen :=
  let listen := Text.trim listen
  match Text.splitLast? ':' listen with
  | none => .ok ⟨listen, Endpoint.managerPort⟩
  | some (host, port) =>
    if port.contains ']' then .ok ⟨listen, Endpoint.managerPort⟩
    else match Text.parseUnsigned Text.maxU16 port with
      | .error fault => .error ⟨listen, fault⟩
      | .ok port => .ok ⟨if host = [] then anyHost else host, port⟩

/-- The listen address of a host and port. -/
def address (listen : Listen) : List Char := listen.host ++ ':' :: (toString listen.port).toList

end Listen

end Workyard
