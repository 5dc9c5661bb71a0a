import KubeLB.Annotations

/-!
The hostname of a LoadBalancer (internal/kubelb/loadbalancer.go): whether one is
configured, and the one that is generated, with the settings of the Tenant and of the
Config that are read for it and for the resources made for it.

The random bytes are one number of 64 bits, the first byte the highest. A string is a
list of characters; its length in Go is the number of its bytes.
-/

namespace KubeLB
open FiniteMap

/-- v1alpha1.DNSSettings, of a Tenant. -/
structure DNSSettings where
  wildcardDomain : Option String := none
  allowExplicitHostnames : Option Bool := none
  useDNSAnnotations : Option Bool := none
  useCertificateAnnotations : Option Bool := none

/-- v1alpha1.ConfigDNSSettings. -/
structure ConfigDNSSettings where
  wildcardDomain : String := ""
  allowExplicitHostnames : Bool := false
  useDNSAnnotations : Bool := false
  useCertificateAnnotations : Bool := false

structure GatewayAPISettings where
  className : Option String := none
  defaultGateway : Option ObjectKey := none
  disable : Bool := false

/-- v1alpha1.TenantSpec, by what the LoadBalancer controller reads. -/
structure TenantSpec extends AnnotationSettings where
  loadBalancerClass : Option String := none
  loadBalancerDisable : Bool := false
  ingressClass : Option String := none
  gatewayAPI : GatewayAPISettings := {}
  dns : DNSSettings := {}
  defaultClusterIssuer : Option String := none

/-- v1alpha1.ConfigSpec, by what the LoadBalancer controller reads. -/
structure ConfigSpec extends AnnotationSettings where
  loadBalancerClass : Option String := none
  loadBalancerDisable : Bool := false
  ingressClass : Option String := none
  gatewayAPI : GatewayAPISettings := {}
  dns : ConfigDNSSettings := {}
  defaultClusterIssuer : Option String := none

def annotationRequestWildcardDomain : String := "kubelb.k8c.io/request-wildcard-domain"

def shouldConfigureHostname (annotations : FiniteMap String String) (hostname : String)
    (tenant : TenantSpec) (config : ConfigSpec) : Bool :=
  if hostname ≠ "" then
    tenant.dns.allowExplicitHostnames = some true ∨
      (config.dns.allowExplicitHostnames ∧ tenant.dns.allowExplicitHostnames = none)
  else if annotations.lookup annotationRequestWildcardDomain ≠ some "true" then false
  else
    (∃ domain ∈ tenant.dns.wildcardDomain, domain ≠ "") ∨
      (config.dns.wildcardDomain ≠ "" ∧ tenant.dns.wildcardDomain = none)

/-- unicode.ToLower, as far as the result can be an ASCII character. -/
def toLowerRune (c : Char) : Char :=
  if 'A' ≤ c ∧ c ≤ 'Z' then Char.ofNat (c.toNat + 32)
  else if c = Char.ofNat 0x212a then 'k'
  else if c = Char.ofNat 0x130 then 'i'
  else c

def isLabelChar (c : Char) : Bool := ('a' ≤ c ∧ c ≤ 'z') ∨ ('0' ≤ c ∧ c ≤ '9')

/-- The expression `^[a-z0-9]([a-z0-9-]{0,61}[a-z0-9])?$`. -/
def matchesLabel (label : List Char) : Bool :=
  label ≠ [] ∧ label.length ≤ 63 ∧ (∀ c ∈ label.head?, isLabelChar c) ∧
    (∀ c ∈ label.getLast?, isLabelChar c) ∧ ∀ c ∈ label, isLabelChar c ∨ c = '-'

def byteLength (s : List Char) : Nat := (s.map fun c => c.utf8Size).sum

/-- A dot at an end or next to another one makes an empty label. -/
def isValidHostname (hostname : String) : Bool :=
  let labels := hostname.toList.splitOn '.'
  hostname ≠ "" ∧ byteLength hostname.toList ≤ 253 ∧ 2 ≤ labels.length ∧
    ∀ label ∈ labels, label ≠ [] ∧ byteLength label ≤ 63 ∧
      matchesLabel (label.map toLowerRune)

/-- What GenerateHostname draws: the random bytes, unless reading them fails, and the
seconds of the clock. -/
structure HostnameDraw where
  randomBytes : Option (BitVec 64)
  now : Int := 0

/-- hex.EncodeToString of eight bytes. -/
def hexEncode (bytes : BitVec 64) : String :=
  String.ofList ((List.range 16).map fun i => Nat.digitChar (bytes.toNat / 16 ^ (15 - i) % 16))

/-- strings.TrimPrefix. -/
def trimLeading (s marker : String) : String :=
  if marker.toList.isPrefixOf s.toList then String.ofList (s.toList.drop marker.length) else s

def fallbackHostname (now : Int) (baseDomain : String) : String :=
  "lb-" ++ toString now ++ "." ++ baseDomain

def generateHostname (tenant : DNSSettings) (config : ConfigDNSSettings) (draw : HostnameDraw) :
    String :=
  let chosen :=
    match tenant.wildcardDomain with
    | some domain => if domain ≠ "" then domain else config.wildcardDomain
    | none => config.wildcardDomain
  if chosen = "" then ""
  else
    match draw.randomBytes with
    | none => fallbackHostname draw.now chosen
    | some bytes =>
        let baseDomain := trimLeading (trimLeading (trimLeading chosen "*.") "**.") "*"
        if isValidHostname baseDomain = false then ""
        else
          let hostname := hexEncode bytes ++ "." ++ baseDomain
          if isValidHostname hostname = false then fallbackHostname draw.now baseDomain
          else hostname

def externalDNSHostnameAnnotation : String := "external-dns.alpha.kubernetes.io/hostname"
def externalDNSTTLAnnotation : String := "external-dns.alpha.kubernetes.io/ttl"
def externalDNSTTLDefault : String := "10"
def certManagerClusterIssuerAnnotation : String := "cert-manager.io/cluster-issuer"

/-- What AddDNSAndCertificateAnnotations writes into the map it is given. -/
def addDNSAndCertificateAnnotations (annotations : FiniteMap String String) (tenant : TenantSpec)
    (config : ConfigSpec) (hostname : String) (skipCertificateAnnotations : Bool) :
    FiniteMap String String :=
  let shouldAddDNS := tenant.dns.useDNSAnnotations.getD config.dns.useDNSAnnotations
  let shouldAddCert :=
    tenant.dns.useCertificateAnnotations.getD config.dns.useCertificateAnnotations
  let annotations :=
    if shouldAddDNS then
      (annotations.insert externalDNSHostnameAnnotation hostname).insert
        externalDNSTTLAnnotation externalDNSTTLDefault
    else annotations
  if skipCertificateAnnotations = false ∧ shouldAddCert then
    match tenant.defaultClusterIssuer <|> config.defaultClusterIssuer with
    | some issuer => annotations.insert certManagerClusterIssuerAnnotation issuer
    | none => annotations
  else annotations

end KubeLB
