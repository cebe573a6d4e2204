import Mathlib.Data.List.AList

/-!
# The VirtualIP resource

The part of `api/v1alpha1` that the agent reads.  The string enumerations of the
API are inductive types with one constructor for any other text, since a stored
or listed object may hold a value that the schema would refuse.
-/

namespace ArcaLB

/-- Elapsed time in nanoseconds. -/
abbrev Time := Nat

/-- The key of a VirtualIP, `namespace/name` in the source. -/
structure VIPKey where
  space : String
  name : String
  deriving DecidableEq, Repr

namespace VIPKey

/-- The key as the agent writes it into maps, store keys and messages. -/
def text (key : VIPKey) : String :=
  key.space ++ "/" ++ key.name

/-- A key for concrete runs. -/
def web : VIPKey := ⟨"default", "web"⟩

end VIPKey

/-- The transport protocol; the API leaves the string open. -/
inductive Protocol where
  | tcp
  | udp
  | other (text : String)
  deriving DecidableEq, Repr

namespace Protocol

/-- The API's string. -/
def text : Protocol → String
  | tcp => "TCP"
  | udp => "UDP"
  | other value => value

end Protocol

/-- The encapsulation type; `unset` is the empty string of an object whose
default was not materialised. -/
inductive EncapType where
  | unset
  | gre4
  | gre6
  | l3dsr
  | nat4
  | nat6
  | other (text : String)
  deriving DecidableEq, Repr

namespace EncapType

/-- The API's string. -/
def text : EncapType → String
  | unset => ""
  | gre4 => "GRE4"
  | gre6 => "GRE6"
  | l3dsr => "L3DSR"
  | nat4 => "NAT4"
  | nat6 => "NAT6"
  | other value => value

end EncapType

/-- A real server behind a VIP. -/
structure BackendSpec where
  address : String
  monitorAddress : String
  weight : Int
  deriving DecidableEq, Repr

/-- The probe type of a health check. -/
inductive HCType where
  | http
  | https
  | tcp
  | ping
  | tlsHello
  | other (text : String)
  deriving DecidableEq, Repr

namespace HCType

/-- The API's string. -/
def text : HCType → String
  | http => "http"
  | https => "https"
  | tcp => "tcp"
  | ping => "ping"
  | tlsHello => "tls-hello"
  | other value => value

end HCType

/-- HTTP probe settings.  `headers` lists the header map in some iteration order. -/
structure HTTPHealthCheck where
  port : Int
  path : String
  method : String
  host : String
  headers : List (String × String)
  expectedCodes : List Int
  deriving DecidableEq, Repr

/-- Settings of a TCP probe. -/
structure TCPHealthCheck where
  port : Int
  deriving DecidableEq, Repr

/-- How the backends of a VIP are probed. -/
structure HealthCheckSpec where
  type : HCType
  intervalSeconds : Int
  timeoutSeconds : Int
  riseCount : Int
  fallCount : Int
  http : Option HTTPHealthCheck
  tcp : Option TCPHealthCheck
  deriving DecidableEq, Repr

/-- The desired state of a VirtualIP. -/
structure VirtualIPSpec where
  address : String
  port : Int
  protocol : Protocol
  encapType : EncapType
  dscp : Option UInt8
  backends : List BackendSpec
  healthCheck : Option HealthCheckSpec
  deriving DecidableEq, Repr

/-- A VirtualIP object; `terminating` says that its deletion timestamp is set. -/
structure VirtualIP where
  key : VIPKey
  uid : String
  generation : Int
  terminating : Bool
  spec : VirtualIPSpec
  deriving DecidableEq, Repr

/-- A TCP service on port 80 with one backend, for concrete runs. -/
def VirtualIP.web (key : VIPKey) (uid address : String) : VirtualIP where
  key := key
  uid := uid
  generation := 1
  terminating := false
  spec :=
    { address := address
      port := 80
      protocol := .tcp
      encapType := .l3dsr
      dscp := some 10
      backends := [{ address := "10.0.0.1", monitorAddress := "", weight := 1 }]
      healthCheck := none }

end ArcaLB
