import Rstream.Go.Errors
import Rstream.Go.Strings

/-!
# The CORS policy of an HTTP service

`Wrap` decides from the request whether the application behind it is called at all, and hands
it a writer that rewrites the `Access-Control-*` headers of every block of headers it sends.
-/

namespace Rstream.Http

open Go

section Header

/-- `http.Header`. -/
abbrev Header := List (String × List String)

namespace Header

/-- `Values`, for a canonical name. -/
def values (h : Header) (name : String) : List String := (List.lookup name h).getD []

/-- `Get`, for a canonical name. -/
def get (h : Header) (name : String) : String := (h.values name).headD ""

def delete (h : Header) (name : String) : Header := h.filter (·.1 != name)

/-- `Set`, for a canonical name. -/
def set (h : Header) (name value : String) : Header := (name, [value]) :: h.delete name

/-- `Add`, for a canonical name. -/
def add (h : Header) (name value : String) : Header :=
  (name, h.values name ++ [value]) :: h.delete name

end Header

/-- Lower case of an ASCII letter. -/
def lowerChar (c : Char) : Char := if c.isUpper then Char.ofNat (c.toNat + 32) else c

/-- Upper case of an ASCII letter. -/
def upperChar (c : Char) : Char := if c.isLower then Char.ofNat (c.toNat - 32) else c

/-- `strings.ToLower` of the name of a header. -/
def lowerName (name : String) : String := String.ofList (name.toList.map lowerChar)

/-- `strings.ToUpper` of a method. -/
def upperName (name : String) : String := String.ofList (name.toList.map upperChar)

/-- `http.CanonicalHeaderKey` of a valid name. -/
def canonicalHeaderKey (name : String) : String := String.ofList (go true name.toList)
where
  go (upper : Bool) : List Char → List Char
    | [] => []
    | c :: cs => (if upper then upperChar c else lowerChar c) :: go (c == '-') cs

/-- A character of an HTTP token. -/
def isTokenChar (c : Char) : Bool := c.isAlphanum || "!#$%&'*+-.^_`|~".toList.contains c

/-- `httpguts.ValidHeaderFieldName`. -/
def validHeaderFieldName (name : String) : Bool := name != "" && name.toList.all isTokenChar

/-- `strings.Split` at commas. -/
def splitComma (s : String) : List String := (s.toList.splitOn ',').map String.ofList

/-- The characters that `strings.EqualFold` identifies with an ASCII letter. -/
def foldChar (c : Char) : Char :=
  if c.toNat = 0x17f then 's' else if c.toNat = 0x212a then 'k' else lowerChar c

/-- `strings.EqualFold`, with an ASCII string as the second argument. -/
def equalFold (s t : String) : Bool := s.toList.map foldChar == t.toList.map foldChar

def addVary (h : Header) (value : String) : Header :=
  if (h.values "Vary").any fun field => (splitComma field).any fun token =>
      equalFold (trimSpace token) value || trimSpace token == "*"
  then h else h.add "Vary" value

end Header

section Origin

/-- The parts of a `url.URL` that are looked at. -/
structure URL where
  scheme : String
  host : String
  hasUser : Bool
  path : String
  rawQuery : String
  forceQuery : Bool
  fragment : String

def validOptionalPort : List Char → Bool
  | [] => true
  | c :: cs => c == ':' && cs.all Char.isDigit

def splitHostPort (hostPort : String) : String × String :=
  let chars := hostPort.toList
  let port := chars.reverse.takeWhile (· != ':')
  let (host, port) :=
    if chars.contains ':' && validOptionalPort (':' :: port.reverse) then
      (chars.take (chars.length - port.length - 1), port.reverse)
    else (chars, [])
  let host := if host.head? == some '[' && host.getLast? == some ']' then host.tail.dropLast
    else host
  (String.ofList host, String.ofList port)

def URL.hostname (u : URL) : String := (splitHostPort u.host).1

def URL.port (u : URL) : String := (splitHostPort u.host).2

/-- The functions of the standard library that origins are parsed with. -/
structure Library where
  /-- `url.Parse`, without its errors. -/
  urlParse : String → Option URL
  /-- `strings.ToLower`. -/
  toLower : String → String
  /-- The empty string has no scheme. -/
  urlParse_empty : ∀ u, urlParse "" = some u → u.scheme = ""

/-- `strings.TrimSuffix`. -/
def trimSuffix (s ending : String) : String :=
  if hasSuffix s ending then String.ofList (s.toList.take (s.toList.length - ending.toList.length))
  else s

def normalizeOrigin (lib : Library) (value : String) : Except String String :=
  match lib.urlParse value with
  | none => .error invalid
  | some u => do
    failIf (u.scheme ≠ "http" ∧ u.scheme ≠ "https" ∨ u.host = "" ∨ u.hostname = "" ∨
      hasSuffix u.host ":" = true ∨ u.hasUser = true ∨ u.path ≠ "" ∨ u.rawQuery ≠ "" ∨
      u.forceQuery = true ∨ u.fragment ≠ "" ∨
      (value.toList.any fun c => "*\\\r\n\t #?".toList.contains c) = true) invalid
    failIf (u.port ≠ "" ∧ (decimal? u.port).all (fun n => n < 1 ∨ n > 65535) = true)
      "CORS origin port must be between 1 and 65535"
    let host :=
      if u.scheme = "https" ∧ u.port = "443" ∨ u.scheme = "http" ∧ u.port = "80" then
        trimSuffix u.host (":" ++ u.port)
      else u.host
    return u.scheme ++ "://" ++ lib.toLower host
where
  invalid : String := "CORS origin must be an explicit HTTP(S) origin without a path, " ++
    "credentials, query or fragment"

end Origin

section Policy

/-- `Config`. -/
structure CorsConfig where
  allowedOrigins : List String
  allowedMethods : List String
  allowedHeaders : List String
  exposedHeaders : List String
  allowCredentials : Bool
  maxAge : Int

/-- The loop of `Normalize` over the values of one list, with the size so far. -/
def normalizeValues (check : String → Except String String) :
    List String → Nat → Except String (List String × Nat)
  | [], size => .ok ([], size)
  | value :: values, size => do
    let size := size + value.utf8ByteSize
    failIf (size > 16384) "CORS configuration exceeds 16384 bytes"
    let value ← check value
    let (values, size) ← normalizeValues check values size
    return (value :: values, size)

/-- One pass of the outer loop of `Normalize`. -/
def normalizeGroup (check : String → Except String String) (values : List String) (size : Nat) :
    Except String (List String × Nat) := do
  failIf (values.length > 128) "CORS lists cannot exceed 128 entries"
  normalizeValues check values size

/-- The check that methods and headers share. -/
def checkToken (value : String) : Except String Unit :=
  failIf (value = "*" ∨ validHeaderFieldName value = false)
    "CORS methods and headers must be explicit HTTP tokens"

/-- What `Normalize` makes of a method. -/
def normalizeMethod (value : String) : Except String String := do
  checkToken value
  let value := upperName value
  failIf (value = "CONNECT" ∨ value = "TRACE" ∨ value = "TRACK")
    ("CORS does not support method " ++ value)
  return value

/-- What `Normalize` makes of the name of a header. -/
def normalizeHeader (value : String) : Except String String := do
  checkToken value
  return canonicalHeaderKey value

/-- The methods of a configuration, or the default ones. -/
def CorsConfig.methods (c : CorsConfig) : List String :=
  if c.allowedMethods.length = 0 then ["GET", "HEAD", "POST"] else c.allowedMethods

/-- `Normalize`, of a configuration that is not nil. -/
def normalize (lib : Library) (c : CorsConfig) : Except String CorsConfig := do
  failIf (c.allowedOrigins.length = 0) "CORS requires at least one allowed origin"
  failIf (c.maxAge < 0 ∨ c.maxAge > 86400) "CORS max age must be between 0 and 86400 seconds"
  let headers :=
    if c.allowedHeaders.length = 0 then ["Authorization", "Content-Type"] else c.allowedHeaders
  let (allowedOrigins, size) ← normalizeGroup (normalizeOrigin lib) c.allowedOrigins 0
  let (allowedMethods, size) ← normalizeGroup normalizeMethod c.methods size
  let (allowedHeaders, size) ← normalizeGroup normalizeHeader headers size
  let (exposedHeaders, _) ← normalizeGroup normalizeHeader c.exposedHeaders size
  return { c with allowedOrigins, allowedMethods, allowedHeaders, exposedHeaders }

/-- `Policy`; the keys of its maps are lists. -/
structure Policy where
  origins : List String
  methods : List String
  headers : List String
  allowMethods : String
  allowHeaders : String
  exposeHeaders : String
  credentials : Bool
  maxAge : String

/-- `New`; no configuration gives no policy. -/
def Policy.new (lib : Library) : Option CorsConfig → Except String (Option Policy)
  | none => .ok none
  | some c => do
    let c ← normalize lib c
    return some {
      origins := c.allowedOrigins
      methods := c.allowedMethods
      headers := c.allowedHeaders.map lowerName
      allowMethods := ", ".intercalate c.allowedMethods
      allowHeaders := ", ".intercalate c.allowedHeaders
      exposeHeaders := ", ".intercalate c.exposedHeaders
      credentials := c.allowCredentials
      maxAge := toString c.maxAge }

end Policy

section Writer

/-- A block of headers on the wire. -/
structure Block where
  status : Int
  header : Header

/-- The server below the policy: HTTP/1 takes the status 101 for the last one of a response, HTTP/2
for an informational one. -/
structure Server where
  switchingIsFinal : Bool

/-- The statuses that are followed by another block. -/
def Server.isInformational (srv : Server) (status : Int) : Bool :=
  100 ≤ status && status ≤ 199 && !(status == 101 && srv.switchingIsFinal)

/-- The `http.ResponseWriter` of the server. -/
structure Response where
  /-- The map that `Header` returns. -/
  header : Header
  /-- The informational blocks, in the order they were sent. -/
  informational : List Block
  /-- The final block. -/
  final : Option Block
  body : List UInt8

namespace Response

variable (srv : Server)

/-- Nothing has been sent. -/
def fresh (header : Header) : Response := ⟨header, [], none, []⟩

/-- `WriteHeader`; it panics for a status that is not of three digits. -/
def writeHeader (w : Response) (status : Int) : Option Response :=
  if w.final.isSome then some w
  else if status < 100 ∨ status > 999 then none
  else if srv.isInformational status then
    some { w with informational := w.informational ++ [⟨status, w.header⟩] }
  else some { w with final := some ⟨status, w.header⟩ }

/-- The final block is sent at the latest with the first byte of the body. -/
def implicitHeader (w : Response) : Response :=
  if w.final.isSome then w else { w with final := some ⟨200, w.header⟩ }

def write (w : Response) (data : List UInt8) : Response :=
  { w.implicitHeader with body := w.body ++ data }

def flush (w : Response) : Response := w.implicitHeader

end Response

structure ResponseWriter where
  response : Response
  policy : Policy
  origin : String
  preflight : Bool
  written : Bool

/-- The headers that `WriteHeader` deletes. -/
def isAccessControl (name : String) : Bool := hasPrefix (lowerName name) "access-control-"

namespace ResponseWriter

variable (srv : Server)

/-- Change the map of headers. -/
def edit (w : ResponseWriter) (f : Header → Header) : ResponseWriter :=
  { w with response := { w.response with header := f w.response.header } }

/-- The headers of the application that `WriteHeader` keeps, with its own in `Vary`. -/
def keptHeader (w : ResponseWriter) : Header :=
  let h := w.response.header.filter (!isAccessControl ·.1)
  let h := addVary h "Origin"
  if w.preflight then
    addVary (addVary h "Access-Control-Request-Method") "Access-Control-Request-Headers"
  else h

/-- With the headers that any response to the origin has. -/
def originHeader (w : ResponseWriter) : Header :=
  let h := w.keptHeader.set "Access-Control-Allow-Origin" w.origin
  if w.policy.credentials then h.set "Access-Control-Allow-Credentials" "true" else h

/-- The headers that `WriteHeader` leaves in the map. -/
def headerFor (w : ResponseWriter) (status : Int) : Header :=
  if w.origin = "" then w.keptHeader
  else if w.preflight = true ∧ status ≥ 200 ∧ status < 300 then
    ((w.originHeader.set "Access-Control-Allow-Methods" w.policy.allowMethods).set
      "Access-Control-Allow-Headers" w.policy.allowHeaders).set
      "Access-Control-Max-Age" w.policy.maxAge
  else if w.preflight = false ∧ w.policy.exposeHeaders ≠ "" then
    w.originHeader.set "Access-Control-Expose-Headers" w.policy.exposeHeaders
  else w.originHeader

/-- `WriteHeader`, and whether it returned: a panic of the server comes after the changes to the
writer. -/
def writeHeader (w : ResponseWriter) (status : Int) : ResponseWriter × Bool :=
  if w.written then (w, true)
  else
    let response := { w.response with header := w.headerFor status }
    let w := { w with response, written := decide (status ≥ 200 ∨ status = 101) }
    match response.writeHeader srv status with
    | some response => ({ w with response }, true)
    | none => (w, false)

/-- The headers go before the body. -/
def commit (w : ResponseWriter) : ResponseWriter :=
  if w.written then w else (w.writeHeader srv 200).1

def write (w : ResponseWriter) (data : List UInt8) : ResponseWriter :=
  let w := w.commit srv
  { w with response := w.response.write data }

/-- `FlushError`. -/
def flush (w : ResponseWriter) : ResponseWriter :=
  let w := w.commit srv
  { w with response := w.response.flush }

end ResponseWriter

/-- The writer that `Prepare` returns. -/
inductive Writer
  /-- The writer it was given. -/
  | plain (w : Response)
  | cors (w : ResponseWriter)

namespace Writer

/-- What was sent through the writer. -/
def response : Writer → Response
  | plain w => w
  | cors w => w.response

/-- Change the map of headers. -/
def edit (f : Header → Header) : Writer → Writer
  | plain w => plain { w with header := f w.header }
  | cors w => cors (w.edit f)

/-- `WriteHeader`, and whether it returned. -/
def writeHeader (srv : Server) (status : Int) : Writer → Writer × Bool
  | plain w => match w.writeHeader srv status with
    | some w => (plain w, true)
    | none => (plain w, false)
  | cors w => let (w, returned) := w.writeHeader srv status; (cors w, returned)

def write (srv : Server) (data : List UInt8) : Writer → Writer
  | plain w => plain (w.write data)
  | cors w => cors (w.write srv data)

def flush (srv : Server) : Writer → Writer
  | plain w => plain w.flush
  | cors w => cors (w.flush srv)

/-- The headers of a text that `http.Error` sends. -/
def errorHeader (h : Header) : Header :=
  ((h.delete "Content-Length").set "Content-Type" "text/plain; charset=utf-8").set
    "X-Content-Type-Options" "nosniff"

/-- `http.Error`. -/
def error (srv : Server) (message : String) (status : Int) (w : Writer) : Writer :=
  (((w.edit errorHeader).writeHeader srv status).1).write srv (utf8 (message ++ "\n"))

def finish (srv : Server) : Writer → Writer
  | plain w => plain w
  | cors w => cors (w.writeHeader srv 200).1

end Writer

end Writer

section Wrap

/-- The parts of an `http.Request` that are looked at. -/
structure Request where
  method : String
  host : String
  tls : Bool
  header : Header

/-- The origin that the request is sent to, as it is written. -/
def Request.ownOrigin (r : Request) : String :=
  (if r.tls then "https" else "http") ++ "://" ++ r.host

/-- What a handler does with its writer, other than to hijack the connection. -/
inductive Call
  /-- Any change to the map of headers. -/
  | edit (f : Header → Header)
  /-- A panic ends the handler unless it recovers. -/
  | writeHeader (status : Int) (recovers : Bool)
  | write (data : List UInt8)
  | flush
  /-- The deadlines and the duplex mode of a `ResponseController`. -/
  | control

/-- One call, and whether the handler goes on. -/
def Call.apply (srv : Server) (w : Writer) : Call → Writer × Bool
  | edit f => (w.edit f, true)
  | writeHeader status recovers =>
    let (w, returned) := w.writeHeader srv status
    (w, returned || recovers)
  | write data => (w.write srv data, true)
  | flush => (w.flush srv, true)
  | control => (w, true)

/-- A handler, as the calls that it makes; whether it returned. -/
def serveHTTP (srv : Server) : List Call → Writer → Writer × Bool
  | [], w => (w, true)
  | call :: calls, w =>
    match call.apply srv w with
    | (w, true) => serveHTTP srv calls w
    | (w, false) => (w, false)

namespace Policy

variable (lib : Library) (srv : Server) (p : Policy)

def prepare (w : Response) (r : Request) (targetOrigin : String) : Writer × Bool :=
  if r.method = "CONNECT" then (.plain w, true)
  else
    let writer : ResponseWriter := ⟨w, p, "", false, false⟩
    let origins := r.header.values "Origin"
    if origins.length = 0 then (.cors writer, true)
    else
      let origin := normalizeOrigin lib (r.header.get "Origin")
      let targetOrigin := (normalizeOrigin lib targetOrigin).toOption.getD ""
      let sameOrigin := origin.toOption == some targetOrigin
      if origins.length ≠ 1 ∨ origin.toOption.isNone = true ∨
          sameOrigin = false ∧ p.origins.contains (origin.toOption.getD "") = false then
        ((Writer.cors writer).error srv "Browser origin is not allowed" 403, false)
      else
        let writer := { writer with
          origin := r.header.get "Origin"
          preflight := r.method == "OPTIONS" && r.header.get "Access-Control-Request-Method" != "" }
        if !sameOrigin && !writer.preflight && !p.methods.contains r.method then
          ((Writer.cors writer).error srv "Browser method is not allowed" 403, false)
        else (.cors writer, true)

/-- The request is a preflight. -/
def isPreflight (r : Request) : Bool :=
  r.method == "OPTIONS" && r.header.get "Origin" != "" &&
    r.header.get "Access-Control-Request-Method" != ""

/-- The preflight asks only for what the policy allows. -/
def preflightValid (r : Request) : Bool :=
  (r.header.values "Access-Control-Request-Method").length == 1 &&
    p.methods.contains (r.header.get "Access-Control-Request-Method") &&
    (r.header.values "Access-Control-Request-Headers").all fun field =>
      (splitComma field).all fun header =>
        validHeaderFieldName (trimSpace header) && p.headers.contains (lowerName (trimSpace header))

/-- `Preflight`: the answer to a preflight, and nothing for another request. -/
def preflight (w : Writer) (r : Request) : Option Writer :=
  if isPreflight r then
    if p.preflightValid r then some (w.writeHeader srv 204).1
    else some (w.error srv "CORS preflight is not allowed" 403)
  else none

/-- What a request leads to. -/
structure Outcome where
  response : Response
  /-- The application was called. -/
  invoked : Bool

/-- `targetOrigin` of `Wrap`. -/
def targetOrigin (r : Request) : String :=
  (normalizeOrigin lib r.ownOrigin).toOption.getD ""

def wrap (next : List Call) (w : Response) (r : Request) : Outcome :=
  match p.prepare lib srv w r (targetOrigin lib r) with
  | (w, false) => ⟨w.response, false⟩
  | (w, true) =>
    match p.preflight srv w r with
    | some w => ⟨w.response, false⟩
    | none =>
      match serveHTTP srv next w with
      | (w, true) => ⟨(w.finish srv).response, true⟩
      | (w, false) => ⟨w.response, true⟩

end Policy

end Wrap

end Rstream.Http
