import Scalibr.Plugin
import Scalibr.Inventory

/-!
The one detector whose code is under src/, `weakcredentials/filebrowser`. For each of three
local ports it asks `http://127.0.0.1:<port>/` whether a File Browser answers, and only where
one does it tries to log in as admin/admin. The first port where the login succeeds gives
the one finding; a cancelled context, checked before each port, ends the scan with the
context's error.

The local network is a parameter: what `client.Do` returns for each request, and the
context's error at the start of each iteration. The model records the requests the detector
hands to `client.Do`, so that where it sends the credentials can be compared with what the
servers answered. The default `http.Client` follows redirects, so one call may reach other
hosts; the model sees the request handed over and the final response, not the connections
`client.Do` makes on the way. Building a request cannot fail here (the methods and URLs
are constants the standard library accepts), and the log lines the detector writes change
nothing it returns.
-/

namespace Scalibr.FileBrowser

open Go

def fileBrowserIP : String := "127.0.0.1"

def fileBrowserPorts : List Nat := [5080, 8080, 80]

def title : String := "Filebrowser is vulnerable to weak credentials using admin/admin"

/-- `description`. The two halves are joined without a space, as in the source. -/
def description : String :=
  "With access to FileBrowser with weak credentials" ++ "an attacker can execute arbitrary code."

def recommendation : String :=
  "Stop the filebrowser service and uninstall it or change the credentials."

/-- The plugin the detector declares: `Name`, `Version`, `Requirements` (Linux, on the
running system) and `RequiredExtractors` (none). -/
def fileBrowserDetector : Detector :=
  ⟨⟨"weakcredentials/filebrowser", 0, ⟨"linux", true, false⟩⟩, []⟩

/-! ### Findings -/

/-- `detector.TypeVulnerability`, the one `detector.Type` that src/ sets. -/
inductive FindingType where
  | vulnerability
deriving DecidableEq, Repr

/-- `detector.SeverityCritical`, the one severity that src/ sets. -/
inductive SeverityLevel where
  | critical
deriving DecidableEq, Repr

/-- `detector.Advisory` with the fields the detector sets; `ID` and `Sev` are pointers. -/
structure Advisory where
  id : Option AdvisoryID
  type : FindingType
  title : String
  description : String
  recommendation : String
  sev : Option SeverityLevel
deriving DecidableEq, Repr

/-- `detector.Finding`: the advisory and the target, both pointers. -/
structure Finding where
  adv : Option Advisory
  target : Option GenericFindingTargetDetails
deriving DecidableEq, Repr

/-- The finding `Scan` returns: SCALIBR's advisory for weak File Browser credentials,
critical, with no target. -/
def weakCredentialsFinding : Finding :=
  ⟨some ⟨some ⟨"SCALIBR", "file-browser-weakcredentials"⟩, .vulnerability, title, description,
    recommendation, some .critical⟩, none⟩

/-! ### The local network -/

/-- An HTTP request as the detector builds it. -/
structure HttpRequest where
  method : String
  url : String
  contentType : Option String
  body : String
deriving DecidableEq, Repr

/-- What `client.Do` returns when it succeeds: the status code, the `ContentLength` the server
declared (`-1` when it declared none), and what `io.ReadAll` of the body gives. -/
structure HttpResponse where
  statusCode : Nat
  contentLength : Int
  body : Except GoError String

/-- The network and the context as the detector sees them: what `client.Do` returns for
each request handed to it, after any redirects it followed, and `ctx.Err()` at the start of
each iteration of the port loop. -/
structure Network where
  clientDo : HttpRequest → Except GoError HttpResponse
  ctxErr : Nat → Option GoError

/-- The request `checkAccessibility` sends: `GET http://<ip>:<port>/`. -/
def accessRequest (ip : String) (port : Nat) : HttpRequest :=
  ⟨"GET", "http://" ++ ip ++ ":" ++ toString port ++ "/", none, ""⟩

/-- The body `checkLogin` sends, `json.Marshal` of its map, which writes the keys sorted. -/
def loginBody : String :=
  "\x7b\"password\":\"admin\",\"recaptcha\":\"\",\"username\":\"admin\"\x7d"

/-- The request `checkLogin` sends: `POST http://<ip>:<port>/api/login`, admin/admin as
JSON. -/
def loginRequest (ip : String) (port : Nat) : HttpRequest :=
  ⟨"POST", "http://" ++ ip ++ ":" ++ toString port ++ "/api/login", some "application/json",
    loginBody⟩

/-- `checkAccessibility`: the server answered 200, declared at most 20 KiB, and its body,
read in full, contains "File Browser". -/
def checkAccessibility (net : Network) (ip : String) (port : Nat) : Bool :=
  match net.clientDo (accessRequest ip port) with
  | .error _ => false
  | .ok resp =>
      if resp.statusCode ≠ 200 then false
      else if resp.contentLength > 20 * 1024 then false
      else match resp.body with
        | .error _ => false
        | .ok body => decide (stringsContains body "File Browser")

/-- `checkLogin`: the login was answered with 200. -/
def checkLogin (net : Network) (ip : String) (port : Nat) : Bool :=
  match net.clientDo (loginRequest ip port) with
  | .error _ => false
  | .ok resp => resp.statusCode == 200

/-- `isVulnerable`, with the requests it sends: the login only where the server is
accessible. -/
def isVulnerable (net : Network) (ip : String) (port : Nat) : Bool × List HttpRequest :=
  if !checkAccessibility net ip port then (false, [accessRequest ip port])
  else if !checkLogin net ip port then (false, [accessRequest ip port, loginRequest ip port])
  else (true, [accessRequest ip port, loginRequest ip port])

/-- The loop of `Scan` from iteration `k` over `ports`: the findings or the context's error,
and the requests sent. -/
def scanLoop (net : Network) : Nat → List Nat → Except GoError (List Finding) × List HttpRequest
  | _, [] => (.ok [], [])
  | k, port :: rest =>
      match net.ctxErr k with
      | some err => (.error err, [])
      | none =>
          let (vulnerable, sent) := isVulnerable net fileBrowserIP port
          if !vulnerable then
            let (result, sent') := scanLoop net (k + 1) rest
            (result, sent ++ sent')
          else (.ok [weakCredentialsFinding], sent)

/-- `Detector.Scan`. The scan root and the inventory index it is given are not read. -/
def scan (net : Network) : Except GoError (List Finding) × List HttpRequest :=
  scanLoop net 0 fileBrowserPorts

/-! ### One port -/

section Port

variable {net : Network} {ip : String} {port : Nat}

theorem checkLogin_eq_true :
    checkLogin net ip port = true ↔
      ∃ resp, net.clientDo (loginRequest ip port) = .ok resp ∧ resp.statusCode = 200 := by
  unfold checkLogin
  rcases net.clientDo (loginRequest ip port) with err | resp <;> simp

end Port

/-! ### The port loop -/

/-- The requests of the ports the loop probed. -/
def probeLog (net : Network) (ports : List Nat) : List HttpRequest :=
  ports.flatMap fun port => (isVulnerable net fileBrowserIP port).2

@[simp] theorem probeLog_nil (net : Network) : probeLog net [] = [] := rfl

@[simp] theorem probeLog_cons (net : Network) (port : Nat) (rest : List Nat) :
    probeLog net (port :: rest) = (isVulnerable net fileBrowserIP port).2 ++ probeLog net rest :=
  rfl

section Exits

variable {net : Network} {k port : Nat} {rest : List Nat}

end Exits

/-- A File Browser that accepts admin/admin on port 8080, and nothing listening on the
other ports. -/
def fileBrowserOn8080 : Network where
  clientDo req :=
    if req = accessRequest fileBrowserIP 8080 then
      .ok ⟨200, 6144, .ok "<title>File Browser</title>"⟩
    else if req = loginRequest fileBrowserIP 8080 then .ok ⟨200, -1, .ok ""⟩
    else .error (.new "connection refused")
  ctxErr _ := none

/-- Port 5080 is probed and passed over; the credentials go to port 8080 only. -/
example : (scan fileBrowserOn8080).2 = [accessRequest fileBrowserIP 5080,
    accessRequest fileBrowserIP 8080, loginRequest fileBrowserIP 8080] :=
  rfl

end Scalibr.FileBrowser
