import ArcaLB.Library.Effect
import ArcaLB.Library.IP
import ArcaLB.Api.VirtualIP

/-!
# The VPP process and its binary API

VPP keeps one load-balancer VIP per address, protocol and port.  Each API request
consumes one reply of the environment: it is carried out, it fails on the way, or VPP
refuses it; only a request that is carried out has an effect.  Adding a VIP or a
backend that exists and deleting one that does not exist are refused by VPP itself.
When the replies are used up, the process is cut off before its next request.
-/

namespace ArcaLB.DataPlane

/-- The load-balancer service types of the configuration. -/
inductive ServiceType where
  | clusterIP
  | nodePort
  | other (text : String)
  deriving DecidableEq, Repr

/-- The part of the VPP configuration that forwarding depends on. -/
structure VPPConfig where
  encapType : EncapType
  dscp : UInt8
  serviceType : ServiceType
  newFlowsTableLength : UInt32
  stateVerificationInterval : Int
  failOnAllBackendsDown : Bool
  deriving DecidableEq, Repr

/-- What VPP identifies a VIP by. -/
structure Tuple where
  ip : IPAddr
  protocol : UInt8
  port : UInt16
  deriving DecidableEq, Repr

/-- The encapsulations of the VPP API. -/
inductive Encap where
  | gre4
  | gre6
  | l3dsr
  | nat4
  | nat6
  deriving DecidableEq, Repr

/-- The service types of the VPP API. -/
inductive SrvType where
  | clusterIP
  | nodePort
  deriving DecidableEq, Repr

/-- A VIP as VPP holds it. -/
structure LbVip where
  encap : Encap
  dscp : UInt8
  srvType : SrvType
  targetPort : UInt16
  flowTableLength : UInt32
  backends : List IPAddr
  deriving DecidableEq, Repr

/-- The environment's answer to a request. -/
inductive Reply where
  | ok
  | failed (err : String)
  | refused (retval : Int)
  deriving DecidableEq, Repr

/-- A tuning-only difference between a VIP in VPP and the configuration. -/
structure VIPTuningDrift where
  field : String
  current : String
  desired : String
  deriving DecidableEq, Repr

/-- Backends under their addresses. -/
abbrev BackendMap := AList fun _ : String => BackendSpec

/-- A backend under its address. -/
abbrev BackendEntry := Sigma fun _ : String => BackendSpec

/-- A cached VIP; `lastVerified` is `none` for the zero time. -/
structure VipEntry where
  vip : VirtualIP
  backends : BackendMap := ∅
  lastVerified : Option Time := none

/-- The agent's cache and the VPP process behind it.  `addedBy` is history: the VIP for
which this process added a tuple that it has not deleted since. -/
structure VPP where
  vips : VIPKey → Option VipEntry := fun _ => none
  tuningDrifts : VIPKey → List VIPTuningDrift := fun _ => []
  table : Tuple → Option LbVip := fun _ => none
  replies : List Reply := []
  addedBy : Tuple → Option VIPKey := fun _ => none

/-- The same state with other replies to come. -/
def VPP.answered (vpp : VPP) (rest : List Reply) : VPP :=
  { vpp with replies := rest }

@[simp] theorem VPP.answered_vips (vpp : VPP) (rest : List Reply) :
    (vpp.answered rest).vips = vpp.vips := rfl

@[simp] theorem VPP.answered_table (vpp : VPP) (rest : List Reply) :
    (vpp.answered rest).table = vpp.table := rfl

section Api

/-- The IP protocol number. -/
def protocolNumber : Protocol → Except String UInt8
  | .tcp => .ok 6
  | .udp => .ok 17
  | .other text => .error ("unsupported VPP protocol: " ++ text)

/-- The API value of an encapsulation. -/
def encapToAPI : EncapType → Except String Encap
  | .gre4 => .ok .gre4
  | .gre6 => .ok .gre6
  | .l3dsr => .ok .l3dsr
  | .nat4 => .ok .nat4
  | .nat6 => .ok .nat6
  | .unset => .error "unsupported VPP encap type: "
  | .other text => .error ("unsupported VPP encap type: " ++ text)

/-- The API value of a service type. -/
def serviceTypeToAPI : ServiceType → Except String SrvType
  | .clusterIP => .ok .clusterIP
  | .nodePort => .ok .nodePort
  | .other text => .error ("unsupported VPP service type: " ++ text)

/-- `parseIPPrefix` and `parseIPAddress`: the prefix length follows from the family. -/
def parseIPAddress (addr : String) : Except String IPAddr :=
  match IPAddr.parseIP addr with
  | some ip => .ok ip
  | none => .error ("invalid IP address: " ++ addr)

/-- The tuple that a spec asks for. -/
def specTuple (spec : VirtualIPSpec) : Except String Tuple := do
  let ip ← parseIPAddress spec.address
  let protocol ← protocolNumber spec.protocol
  .ok ⟨ip, protocol, UInt16.ofInt spec.port⟩

/-- The tuple that the requests for a VIP name. -/
def tupleOf (vip : VirtualIP) : Except String Tuple :=
  specTuple vip.spec

/-- The encapsulation of a VIP, the configured one where the spec leaves it empty. -/
def effectiveEncapType (config : VPPConfig) (vip : VirtualIP) : EncapType :=
  if vip.spec.encapType = .unset then config.encapType else vip.spec.encapType

/-- The DSCP of a VIP or the configured one, for L3DSR only. -/
def effectiveDSCP (config : VPPConfig) (encapType : EncapType) (vip : VirtualIP) :
    Except String UInt8 :=
  if encapType ≠ .l3dsr then .ok 0
  else
    let dscp := vip.spec.dscp.getD config.dscp
    if dscp = 0 then .error "invalid dscp=0 for L3DSR; must be 1-63" else .ok dscp

/-- The attributes whose change replaces a VIP. -/
structure VipAttributes where
  address : String
  port : Int
  protocol : Protocol
  encapType : EncapType
  dscp : UInt8
  serviceType : ServiceType
  newFlowsTableLength : UInt32
  deriving DecidableEq, Repr

/-- The attributes in VPP that a VIP asks for. -/
def effectiveVIPAttributes (config : VPPConfig) (vip : VirtualIP) :
    Except String VipAttributes := do
  let encapType := effectiveEncapType config vip
  let dscp ← effectiveDSCP config encapType vip
  .ok
    { address := vip.spec.address
      port := vip.spec.port
      protocol := vip.spec.protocol
      encapType
      dscp
      serviceType := config.serviceType
      newFlowsTableLength := config.newFlowsTableLength }

/-- The tuple and the attributes in an `LbAddDelVip` request, checked in the order of
the source. -/
def vipRequest (config : VPPConfig) (vip : VirtualIP) : Except String (Tuple × LbVip) := do
  let tuple ← tupleOf vip
  let encapType := effectiveEncapType config vip
  let encap ← encapToAPI encapType
  let srvType ← serviceTypeToAPI config.serviceType
  let dscp ← effectiveDSCP config encapType vip
  .ok (tuple,
    { encap
      dscp
      srvType
      targetPort := UInt16.ofInt vip.spec.port
      flowTableLength := config.newFlowsTableLength
      backends := [] })

/-- The tuple and the backend address in an `LbAddDelAs` request. -/
def asRequest (vip : VirtualIP) (backend : BackendSpec) : Except String (Tuple × IPAddr) := do
  let tuple ← tupleOf vip
  match parseIPAddress backend.address with
  | .ok ip => .ok (tuple, ip)
  | .error err => .error ("failed to parse backend address " ++ backend.address ++ ": " ++ err)

end Api

section Requests

/-- Send a request; `wrap` and `refusal` are the caller's error texts. -/
def invoke (wrap : String → String) (refusal : Int → String) : Effect VPP String Unit :=
  fun vpp =>
    match vpp.replies with
    | [] => (.crashed, vpp)
    | .ok :: rest => (.ok (), { vpp with replies := rest })
    | .failed err :: rest => (.error (wrap err), { vpp with replies := rest })
    | .refused retval :: rest => (.error (refusal retval), { vpp with replies := rest })

/-- Open a dump stream, which has no return code of its own. -/
def dump (name : String) : Effect VPP String Unit :=
  invoke (fun err => name ++ " failed: " ++ err)
    fun retval => name ++ " failed: " ++ toString retval

/-- VPP's return code for something that exists already. -/
def valueExist : Int := -81

/-- VPP's return code for something that does not exist. -/
def noSuchEntry : Int := -6

/-- Write the entry of a tuple; `holder` is the VIP it was added for. -/
def VPP.setTable (vpp : VPP) (tuple : Tuple) (vip : Option LbVip) (holder : Option VIPKey) : VPP :=
  { vpp with
    table := Function.update vpp.table tuple vip
    addedBy := Function.update vpp.addedBy tuple holder }

/-- Write the backends of a tuple. -/
def VPP.setBackends (vpp : VPP) (tuple : Tuple) (vip : LbVip) (backends : List IPAddr) : VPP :=
  { vpp with table := Function.update vpp.table tuple (some { vip with backends }) }

/-- Add the VIP in VPP; the agent's ledger records for which key. -/
def addVIP (config : VPPConfig) (vip : VirtualIP) : Effect VPP String Unit := do
  let (tuple, attributes) ← Effect.ofExcept (vipRequest config vip)
  let refusal := fun retval : Int => "VPP returned error code " ++ toString retval
  invoke (fun err => "LbAddDelVip failed: " ++ err) refusal
  let vpp ← Effect.read
  match vpp.table tuple with
  | some _ => Effect.fail (refusal valueExist)
  | none => Effect.modify fun vpp => vpp.setTable tuple (some attributes) (some vip.key)

/-- Delete the VIP in VPP. -/
def deleteVIP (config : VPPConfig) (vip : VirtualIP) : Effect VPP String Unit := do
  let (tuple, _) ← Effect.ofExcept (vipRequest config vip)
  let refusal := fun retval : Int =>
    "VPP returned error code " ++ toString retval ++ " on delete"
  invoke (fun err => "LbAddDelVip (delete) failed: " ++ err) refusal
  let vpp ← Effect.read
  match vpp.table tuple with
  | none => Effect.fail (refusal noSuchEntry)
  | some _ => Effect.modify fun vpp => vpp.setTable tuple none none

/-- Add a backend to the VIP in VPP. -/
def addBackend (vip : VirtualIP) (backend : BackendSpec) : Effect VPP String Unit := do
  let (tuple, ip) ← Effect.ofExcept (asRequest vip backend)
  let refusal := fun retval : Int =>
    "VPP returned error code " ++ toString retval ++ " adding backend"
  invoke (fun err => "LbAddDelAs failed: " ++ err) refusal
  let vpp ← Effect.read
  match vpp.table tuple with
  | none => Effect.fail (refusal noSuchEntry)
  | some held =>
    if ip ∈ held.backends then Effect.fail (refusal valueExist)
    else Effect.modify fun vpp => vpp.setBackends tuple held (ip :: held.backends)

/-- Remove a backend from the VIP in VPP. -/
def removeBackend (vip : VirtualIP) (backend : BackendSpec) : Effect VPP String Unit := do
  let (tuple, ip) ← Effect.ofExcept (asRequest vip backend)
  let refusal := fun retval : Int =>
    "VPP returned error code " ++ toString retval ++ " removing backend"
  invoke (fun err => "LbAddDelAs (delete) failed: " ++ err) refusal
  let vpp ← Effect.read
  match vpp.table tuple with
  | none => Effect.fail (refusal noSuchEntry)
  | some held =>
    if ip ∈ held.backends then
      Effect.modify fun vpp => vpp.setBackends tuple held (held.backends.erase ip)
    else Effect.fail (refusal noSuchEntry)

/-- `lookupVIP`: the VIP that VPP dumps for the tuple. -/
def lookupVIP (vip : VirtualIP) : Effect VPP String (Option LbVip) := do
  let tuple ← Effect.ofExcept (tupleOf vip)
  dump "LbVipDump"
  let vpp ← Effect.read
  pure (vpp.table tuple)

/-- The default weight of a backend, given to one that only VPP knows. -/
def defaultBackendWeight : Int := 1

/-- The backends that VPP holds for a tuple. -/
def VPP.backendsOf (vpp : VPP) (tuple : Tuple) : List IPAddr :=
  ((vpp.table tuple).map LbVip.backends).getD []

/-- `dumpBackends`: the backends of the tuple under their canonical texts, with the
desired settings where the desired backends name that text. -/
def dumpBackends (vip : VirtualIP) (desiredBackends : List BackendSpec) :
    Effect VPP String BackendMap := do
  let tuple ← Effect.ofExcept (tupleOf vip)
  dump "LbAsDump"
  let vpp ← Effect.read
  let desired := fun addr => desiredBackends.reverse.find? fun backend => backend.address = addr
  pure ((vpp.backendsOf tuple).foldl (fun backends ip =>
    backends.insert ip.text
      ((desired ip.text).getD
        { address := ip.text, monitorAddress := "", weight := defaultBackendWeight })) ∅)

end Requests

end ArcaLB.DataPlane
