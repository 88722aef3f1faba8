import AuditScanner.Go

/-!
# Building the scanner

`NewScanner` builds the HTTP client the scanner talks to policy servers with: a 10 s
timeout, the system's certificates plus those of an optional CA file, TLS 1.2 at least, and
no certificate verification when `insecureClient` is set.  The client's transport is
`http.DefaultTransport` itself, so the TLS configuration is kept in the process state that
every client of the process shares.
-/

namespace AuditScanner

/-- `tls.VersionTLS12`. -/
def versionTLS12 : Nat := 0x0303

/-- A `tls.Config`, as far as `NewScanner` sets it. -/
structure TlsConfig where
  rootCAs : List String
  minVersion : Nat
  insecureSkipVerify : Bool := false
deriving DecidableEq, Repr

/-- What `NewScanner` changes in the process: the lines it logs, and the TLS configuration
of `http.DefaultTransport`, nil until it is set. -/
structure Process where
  log : List LogLine := []
  defaultTLS : Option TlsConfig := none
deriving DecidableEq, Repr

/-- What `NewScanner` reads from the machine. -/
structure Machine where
  /-- `x509.SystemCertPool()`: the system's certificates, or nil when it fails. -/
  systemCertPool : Option (List String)
  /-- `os.ReadFile`. -/
  readFile : String → Except GoError String
  /-- The certificates `AppendCertsFromPEM` finds in a PEM file's content. -/
  certsFromPEM : String → List String

/-- The scanner's HTTP client; its transport is `http.DefaultTransport`. -/
structure HttpClient where
  timeoutSeconds : Nat
deriving DecidableEq, Repr

/-- `Scanner`, as far as `NewScanner` builds it. -/
structure Scanner where
  httpClient : HttpClient
  outputScan : Bool
deriving DecidableEq, Repr

/-- Write a line of the process's log. -/
def Process.logLine (line : LogLine) : Go Process Unit :=
  modify fun p => { p with log := p.log ++ [line] }

/-- The certificates `NewScanner` trusts: the system's, then those of the CA file; an error
when the file cannot be read or holds no certificate. -/
def rootCAsOf (m : Machine) (caCertFile : String) : Except GoError (List String) :=
  let rootCAs := m.systemCertPool.getD []
  if caCertFile ≠ "" then
    match m.readFile caCertFile with
    | .error err =>
      .error (.wrap ("failed to read file \"" ++ caCertFile ++ "\" with CA cert: ") err)
    | .ok certs =>
      match m.certsFromPEM certs with
      | [] => .error (.new "failed to append cert to in-app RootCAs trust store")
      | added => .ok (rootCAs ++ added)
  else .ok rootCAs

/-- `NewScanner`. -/
def newScanner (m : Machine) (outputScan insecureClient : Bool) (caCertFile : String) :
    Go Process (Except GoError Scanner) := do
  match rootCAsOf m caCertFile with
  | .error err => pure (.error err)
  | .ok rootCAs =>
    if caCertFile ≠ "" then
      Process.logLine ⟨.debug, "appended cert file to in-app RootCAs trust store", none⟩
    -- `httpClient.Transport = http.DefaultTransport`; the type assertion to
    -- `*http.Transport` holds, and the assignments below go through the pointer.
    modify fun p => { p with defaultTLS := some { rootCAs, minVersion := versionTLS12 } }
    if insecureClient then
      modify fun p =>
        { p with defaultTLS := p.defaultTLS.map fun c => { c with insecureSkipVerify := true } }
      Process.logLine
        ⟨.warn, "connecting to PolicyServers endpoints without validating TLS connection", none⟩
    pure (.ok { httpClient := { timeoutSeconds := 10 }, outputScan })

end AuditScanner
