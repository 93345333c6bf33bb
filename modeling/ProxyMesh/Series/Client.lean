import ProxyMesh.Series.Flux
import ProxyMesh.Series.Line
import ProxyMesh.Series.SumTable
import ProxyMesh.Settings.Basic

/-!
# The time-series store over HTTP

A sum is asked for in Flux, points are written as lines with times in seconds.

* `Request`          what is sent;
* `Exchange`         what becomes of a request;
* `querySums`, `writePoints`   the answer of the store, given what becomes of a request, and the
                               request, none if nothing was sent.
-/

namespace ProxyMesh

structure Request where
  method : String
  /-- path and query -/
  target : String
  contentType : String
  accept : String
  userAgent : String
  authorization : Option String
  body : String
deriving DecidableEq, Repr

/-- what becomes of a request -/
inductive Exchange where
  /-- nothing listens -/
  | refused (reason : String)
  /-- the connection ends without an answer -/
  | closed
  | reply (status : Nat) (body : String)
deriving DecidableEq, Repr

/-- letters, digits and `-_.~` stand for themselves in a query -/
def isUnreserved (b : UInt8) : Bool :=
  let c := Char.ofNat b.toNat
  c.isAlphanum || c == '-' || c == '_' || c == '.' || c == '~'

def percentDigit (n : Nat) : Char := (Nat.digitChar n).toUpper

def percentByte (b : UInt8) : List Char :=
  if isUnreserved b then [Char.ofNat b.toNat]
  else ['%', percentDigit (b.toNat / 16), percentDigit (b.toNat % 16)]

/-- a text as a value in a query -/
def percentText (s : String) : String :=
  String.ofList (s.toUTF8.toList.flatMap percentByte)

/-- no control character but the tab -/
def isHeaderText (s : String) : Bool :=
  s.toList.all fun c => c == '\t' || (' ' ≤ c && c != '\x7f')

namespace SeriesSettings

def authorization (s : SeriesSettings) : Option String := s.token.map ("Token " ++ ·)

def request (s : SeriesSettings) (target contentType body : String) : Request :=
  ⟨"POST", target, contentType, "application/csv", "relaygrid-metrics/0.1", s.authorization, body⟩

def queryRequest (s : SeriesSettings) (flux : String) : Request :=
  s.request ("/api/v2/query?org=" ++ percentText s.org) "application/vnd.flux" flux

def writeRequest (s : SeriesSettings) (lines : String) : Request :=
  s.request ("/api/v2/write?org=" ++ percentText s.org ++ "&bucket=" ++ percentText s.bucket ++
    "&precision=s") "text/plain; charset=utf-8" lines

end SeriesSettings

/-- the body of the answer, and the request if it was sent -/
def send (s : SeriesSettings) (x : Exchange) (r : Request) :
    Except SeriesError String × Option Request :=
  match x, isHeaderText (r.authorization.getD "") with
  | .refused reason, _ => (.error (.connect s.address reason), none)
  | _, false => (.error (.http "failed to parse header value"), none)
  | .closed, true => (.error (.http "connection closed before message completed"), some r)
  | .reply status body, true =>
    if 200 ≤ status && status < 300 then (.ok body, some r)
    else (.error (.status status body), some r)

/-- the sums that the store answers with -/
def querySums (s : SeriesSettings) (x : Exchange) (q : SumQuery) :
    Except SeriesError (Option FieldSums) × Option Request :=
  match fluxSum s.bucket q with
  | .error e => (.error e, none)
  | .ok flux =>
    match send s x (s.queryRequest flux) with
    | (.error e, sent) => (.error e, sent)
    | (.ok body, sent) => ((readSums body).mapError .unreadable, sent)

/-- points written; a batch without lines is not sent -/
def writePoints (s : SeriesSettings) (x : Exchange) (points : List Point) :
    Except SeriesError Unit × Option Request :=
  let lines := linesText points
  if lines.isEmpty then (.ok (), none)
  else
    let (answer, sent) := send s x (s.writeRequest lines)
    (answer.map fun _ => (), sent)

end ProxyMesh
