import GpuInventory.Monitor

/-!
The HTTP interface: what is answered to a request.

Every resource has one path and its methods, both taken letter for letter, save that one line feed
may follow the path.  A request for a known path with another method is refused as such.  A path
that would be known with the slashes at its end taken off, or with one put there, is answered with
the advice to ask again, whatever the method.

Some resources are there by themselves: a description of the interface, two pages that show it, and
one for signing in on the first of these.  Of the description only what it says about this service
is kept here, its title and the resources it lists, and not the schemes of requests and answers; of
the pages, which are fixed, nothing but that they are there.

The failures that callers reckon with become answers; any other one is an error of the service,
which is answered without a reason, and the failure is kept beside the answer.  So is an answer that
cannot be encoded because a text in it holds half of a surrogate pair.
-/

namespace GpuInventory
namespace Http

structure Request where
  method : String := "GET"
  path : String
deriving DecidableEq, Repr

inductive Body where
  | json (value : Json)
  | plain (lines : List String)
  /-- Nothing, or a page whose text is left out. -/
  | empty

def Body.contentType : Body → String
  | .json _ => "application/json"
  | .plain _ => "text/plain"
  | .empty => ""

structure Response where
  status : Nat
  body : Body
  /-- The failure behind the answer, if nobody reckoned with it. -/
  raised : Option Failure := none
  /-- Why the answer that was meant cannot be encoded. -/
  unencodable : Option Text.Unencodable := none

/-! ## Resources -/

inductive Resource where
  | description
  | manual
  | signIn
  | reference
  | health
  | inventory
  | discovery
  | usable
  | metrics
deriving DecidableEq, Repr

namespace Resource

def path : Resource → String
  | .description => "/openapi.json"
  | .manual => "/docs"
  | .signIn => "/docs/oauth2-redirect"
  | .reference => "/redoc"
  | .health => "/health"
  | .inventory => "/gpus"
  | .discovery => "/gpus/discover"
  | .usable => "/gpus/usable"
  | .metrics => "/metrics"

/-- The methods by which a resource is asked for.  Those that are there by themselves may be asked
for their heads alone. -/
def methods : Resource → List String
  | .description | .manual | .signIn | .reference => ["GET", "HEAD"]
  | .discovery => ["POST"]
  | .health | .inventory | .usable | .metrics => ["GET"]

/-- The resources of a monitor: metrics are there only if they are kept. -/
def all (monitor : Monitor) : List Resource :=
  [description, manual, signIn, reference, health, inventory, discovery, usable] ++
    if monitor.metrics.isSome then [metrics] else []

/-- Whether a path is that of a resource: one line feed may follow it. -/
def isAt (r : Resource) (path : List Char) : Bool :=
  path == r.path.toList || path == r.path.toList ++ ['\n']

def at? (monitor : Monitor) (path : List Char) : Option Resource :=
  (all monitor).find? fun r => r.isAt path

/-- The group and the purpose of a resource as the description lists it, if it does. -/
def purpose? : Resource → Option (String × String)
  | .description | .manual | .signIn | .reference => none
  | .health => some ("System", "Check discovery health status.")
  | .inventory => some ("GPUs", "Get the last successfully discovered GPU information.")
  | .discovery => some ("GPUs", "Run GPU discovery now.")
  | .usable => some ("GPUs", "Get the GPUs the resource manager may schedule onto.")
  | .metrics => some ("System", "Prometheus metrics.")

def listing? (r : Resource) : Option (String × Json) :=
  r.purpose?.map fun (group, purpose) =>
    let operation : Json :=
      .object [("tags", .array [.string group]), ("description", .string purpose)]
    (r.path, .object (r.methods.map fun method => (method.toLower, operation)))

end Resource

/-- A path without the slashes at its end, or with a slash there if it has none. -/
def otherSpelling (path : List Char) : List Char :=
  if path.getLast? = some '/' then (path.reverse.dropWhile (· == '/')).reverse else path ++ ['/']

/-! ## Answers -/

/-- The answer in place of one that cannot be encoded. -/
def unsent (reason : Option Text.Unencodable) : Response :=
  { status := 500, body := .plain ["Internal Server Error"], unencodable := reason }

/-- An answer with a value.  The texts in it that come from outside undecoded are `given`. -/
def encoded (status : Nat) (value : Json) (given : List String) : Response :=
  if Text.areEncodable given then { status, body := .json value }
  else unsent (Text.unencodable? (value.chars .body))

@[simp] theorem encoded_nil (status : Nat) (value : Json) :
    encoded status value [] = { status, body := .json value } := rfl

theorem encoded_of_areEncodable {given : List String} (h : Text.areEncodable given = true)
    (status : Nat) (value : Json) : encoded status value given = { status, body := .json value } :=
  if_pos h

theorem encoded_of_not_areEncodable {given : List String} (h : Text.areEncodable given = false)
    (status : Nat) (value : Json) :
    encoded status value given = unsent (Text.unencodable? (value.chars .body)) :=
  if_neg (Bool.not_eq_true _ ▸ h)

def refusal (status : Nat) (detail : String) (given : List String := []) : Response :=
  encoded status (.object [("detail", .string detail)]) given

/-- The advice to ask for another spelling of the path. -/
def elsewhere : Response :=
  { status := 307, body := .empty }

def broken (failure : Failure) : Response :=
  { status := 500, body := .plain ["Internal Server Error"], raised := some failure }

def answer (value : Json) (given : List String := []) : Response :=
  encoded 200 value given

def gpuBody (g : Gpu) : Json :=
  .object [("minor_number", .integer g.minorNumber), ("product_name", .string g.productName),
    ("uuid", .string g.uuid), ("bus_id", .ofString? g.busId),
    ("memory_total_mib", .ofInt? g.memoryTotal), ("memory_used_mib", .ofInt? g.memoryUsed),
    ("temperature_c", .ofFloat? g.temperature), ("utilization_percent", .ofFloat? g.utilization),
    ("power_draw_w", .ofFloat? g.powerDraw)]

def inventoryBody (i : Inventory) : Json :=
  .object [("driver_version", .string i.driverVersion), ("gpu_count", .integer i.count),
    ("gpus", .array (i.gpus.map gpuBody))]

def deviceBody (d : Device) : Json :=
  .object [("index", .integer d.index), ("minor_number", .integer d.minorNumber)]

def health (s : Monitor.Status) : String :=
  if !s.isInitialized then "initializing" else if s.discovered.isNone then "degraded" else "healthy"

def healthBody (s : Monitor.Status) : Json :=
  .object [("status", .string (health s)), ("initialized", .bool s.isInitialized),
    ("binary_path", .ofString? s.path), ("allowed_devices", .string s.allowedDevices),
    ("consecutive_failures", .integer s.failures),
    ("discovered_gpus", .ofInt? (s.discovered.map fun (n : Nat) => (n : Int)))]

def discoveryResponse : Except Failure Inventory → Response
  | .ok inventory => answer (inventoryBody inventory)
  | .error failure =>
    if failure.isExpected then refusal 503 failure.message failure.given else broken failure

/-- The answer to the question for usable devices.  That the allow list is wrong is told apart from
other failures. -/
def usableResponse : Except Failure (List Device) → Response
  | .ok devices => answer (.array (devices.map deviceBody))
  | .error failure =>
    if !failure.isExpected then broken failure
    else
      match failure with
      | .allowList _ => refusal 400 failure.message failure.given
      | _ => refusal 503 failure.message failure.given

def inventoryResponse : Option Inventory → Response
  | some inventory => answer (inventoryBody inventory)
  | none => refusal 404 "GPU discovery has not succeeded yet"

/-- The answer to the question for the metrics.  Their text also says when they were first counted,
so that the position of a half in it cannot be told. -/
def metricsResponse : Option Metrics → Response
  | some m =>
    if Text.areEncodable m.given then { status := 200, body := .plain m.lines }
    else
      unsent ((m.given.findSome? fun s => Text.unencodable? s.toList).map fun u =>
        { u with position := none })
  | none => { status := 200, body := .plain [] }

/-- What the description of the interface says about this service. -/
def descriptionBody (monitor : Monitor) : Json :=
  .object
    [("info", .object
      [("title", .string "GPU Discovery API"),
        ("description", .string
          "nvidia-smi based GPU discovery and allowed-devices reconciliation"),
        ("version", .string "1.0.0")]),
      ("paths", .object ((Resource.all monitor).filterMap Resource.listing?))]

def Resource.serve (r : Resource) (monitor : Monitor) (world : World) : Effects Monitor Response :=
  match r with
  | .description => .none monitor (answer (descriptionBody monitor))
  | .manual | .signIn | .reference => .none monitor { status := 200, body := .empty }
  | .health => .none monitor (answer (healthBody monitor.status) monitor.status.given)
  | .inventory => .none monitor (inventoryResponse monitor.inventory)
  | .discovery => (monitor.refresh world).mapValue discoveryResponse
  | .usable => monitor.usableDevices.mapValue usableResponse
  | .metrics => .none monitor (metricsResponse monitor.metrics)

def serve (request : Request) (monitor : Monitor) (world : World) : Effects Monitor Response :=
  let path := request.path.toList
  match Resource.at? monitor path with
  | some resource =>
    if resource.methods.contains request.method then resource.serve monitor world
    else .none monitor (refusal 405 "Method Not Allowed")
  | none =>
    if (Resource.at? monitor (otherSpelling path)).isSome then .none monitor elsewhere
    else .none monitor (refusal 404 "Not Found")

end Http
end GpuInventory
