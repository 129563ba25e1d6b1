import RackTraffic.Traffic.Unit

/-!
# Flows and their links

A *flow* is a demand for traffic: at some time step one rack is to send a number of bytes to
another at some rate. An *allocation* decides for each flow which link carries it: the wired fabric
or a wireless shortcut between the racks.

Flows that are read from a log may be anything a log can say, also a flow from a rack to itself.
Flows that are drawn are made by `Flow.tcp`, which refuses such flows and flows without data.
-/

namespace RackTraffic

structure Rack where
  index : UInt64
  deriving DecidableEq, Repr, Inhabited

inductive Label where
  | tcp
  /-- Any other label, kept as it was read. -/
  | other (text : String)
  deriving DecidableEq, Repr

def Label.tcpText : String := "Tcp"

def Label.ofText (text : String) : Label :=
  if text = tcpText then .tcp else .other text

def Label.text : Label → String
  | .tcp => tcpText
  | .other text => text

/-- A demand for traffic. -/
structure Flow where
  timeStep : UInt64
  source : Rack
  destination : Rack
  label : Label
  size : Bytes
  rate : Gbps
  deriving DecidableEq, Repr

inductive FlowFault where
  | selfLoop (rack : Rack)
  | noData (source destination : Rack)
  deriving DecidableEq, Repr

/-- A flow between different racks that transfers at least one byte. -/
def Flow.tcp (timeStep : UInt64) (source destination : Rack) (size : Bytes) (rate : Gbps) :
    Except FlowFault Flow :=
  if source = destination then .error (.selfLoop source)
  else if size.count = 0 then .error (.noData source destination)
  else .ok { timeStep, source, destination, label := .tcp, size, rate }

/-! ## Links -/

/-- A link code that is neither that of the wireless links nor that of the wired ones. -/
structure UnknownCode where
  value : Int64
  notKnown : value ≠ 1 ∧ value ≠ 2
  deriving DecidableEq, Repr

/-- What carries a flow. -/
inductive Link where
  | wireless
  | wired
  /-- Something else, known by its code alone. -/
  | unknown (code : UnknownCode)
  deriving DecidableEq, Repr

def Link.ofCode (code : Int64) : Link :=
  if h₁ : code = 1 then .wireless
  else if h₂ : code = 2 then .wired
  else .unknown ⟨code, h₁, h₂⟩

def Link.code : Link → Int64
  | .wireless => 1
  | .wired => 2
  | .unknown code => code.value

theorem Link.ofCode_code (link : Link) : Link.ofCode link.code = link := by
  rcases link with _ | _ | ⟨value, h₁, h₂⟩
  · rfl
  · rfl
  · simp [code, ofCode, h₁, h₂]

theorem Link.code_ofCode (code : Int64) : (Link.ofCode code).code = code := by
  unfold ofCode
  split
  · simp_all [Link.code]
  · split <;> simp_all [Link.code]

def Link.isWireless (link : Link) : Bool := link == .wireless

structure AllocatedFlow where
  flow : Flow
  link : Link
  deriving DecidableEq, Repr

end RackTraffic
