import KubeLB.Foundation.Base64
import KubeLB.Objects

/-!
The kubeconfig that the manager makes for the CCM of a tenant (generateKubeconfig in
internal/controllers/kubelb/tenant_controller.go).

The text comes from html/template, which escapes what it fills in. The YAML reader on the
other side is a parameter: there are values that it takes as they stand. A Go string is
a list of bytes, each of which is a character here. The text of clientcmd.Load,
net.ParseIP and the string of an IP are given by the caller, and so is the order in which
the map of clusters is gone through.
-/

namespace KubeLB

def textOfBytes (bytes : List UInt8) : List Char := bytes.map fun byte => Char.ofNat byte.toNat

/-- The replacement table of html/template. -/
def htmlReplacement (c : Char) : Option (List Char) :=
  if c = Char.ofNat 0 then some [Char.ofNat 0xef, Char.ofNat 0xbf, Char.ofNat 0xbd]
  else if c = Char.ofNat 34 then some "&#34;".toList
  else if c = '&' then some "&amp;".toList
  else if c = Char.ofNat 39 then some "&#39;".toList
  else if c = '+' then some "&#43;".toList
  else if c = '<' then some "&lt;".toList
  else if c = '>' then some "&gt;".toList
  else none

def htmlEscape (text : List Char) : List Char :=
  text.flatMap fun c => (htmlReplacement c).getD [c]

structure Kubeconfig where
  caCertificate : List UInt8
  serverURL : List Char
  ns : List Char
  token : List Char
  deriving DecidableEq

def caLabel : List Char := "    certificate-authority-data: ".toList
def serverLabel : List Char := "    server: ".toList
def namespaceLabel : List Char := "    namespace: ".toList
def tokenLabel : List Char := "    token: ".toList

def templateLines (ca server ns token : List Char) : List (List Char) :=
  ["apiVersion: v1".toList, "kind: Config".toList, "clusters:".toList,
    "- name: kubelb-cluster".toList, "  cluster:".toList, caLabel ++ ca, serverLabel ++ server,
    "contexts:".toList, "- name: default-context".toList, "  context:".toList,
    "    cluster: kubelb-cluster".toList, namespaceLabel ++ ns, "    user: default-user".toList,
    "current-context: default-context".toList, "users:".toList, "- name: default-user".toList,
    "  user:".toList, tokenLabel ++ token, []]

def kubeconfigTemplate (ca server ns token : List Char) : List Char :=
  ['\n'].intercalate (templateLines ca server ns token)

def Kubeconfig.render (config : Kubeconfig) : List Char :=
  kubeconfigTemplate (htmlEscape (Base64.encode config.caCertificate))
    (htmlEscape config.serverURL) (htmlEscape config.ns) (htmlEscape config.token)

/-- A reader of kubeconfigs, as far as the template goes: the values that it takes as they
stand, and what it makes of a text with such values. -/
structure KubeconfigReader where
  scalar : List Char → Prop
  read : List Char → Option Kubeconfig
  read_template : ∀ {ca server ns token}, scalar ca → scalar server → scalar ns → scalar token →
    read (kubeconfigTemplate ca server ns token) =
      (Base64.decode ca).map fun caCertificate => ⟨caCertificate, server, ns, token⟩

structure Kubeconfig.ScalarFor (config : Kubeconfig) (reader : KubeconfigReader) : Prop where
  caCertificate : reader.scalar (htmlEscape (Base64.encode config.caCertificate))
  serverURL : reader.scalar (htmlEscape config.serverURL)
  ns : reader.scalar (htmlEscape config.ns)
  token : reader.scalar (htmlEscape config.token)

def Plain (text : List Char) : Prop := ∀ c ∈ text, htmlReplacement c = none

structure Kubeconfig.IsPlain (config : Kubeconfig) : Prop where
  caCertificate : '+' ∉ Base64.encode config.caCertificate
  serverURL : Plain config.serverURL
  ns : Plain config.ns
  token : Plain config.token

/-- A replacement is longer than a character and stays on the line. -/
theorem htmlReplacement_spec {c : Char} {replacement : List Char}
    (replaced : htmlReplacement c = some replacement) :
    1 < replacement.length ∧ '\n' ∉ replacement := by
  unfold htmlReplacement at replaced
  split_ifs at replaced <;> cases replaced <;> decide

theorem length_le_htmlEscape (text : List Char) : text.length ≤ (htmlEscape text).length := by
  induction text with
  | nil => simp [htmlEscape]
  | cons c text ih =>
      have longer : 1 ≤ ((htmlReplacement c).getD [c]).length := by
        cases replaced : htmlReplacement c with
        | none => simp
        | some replacement => exact (htmlReplacement_spec replaced).1.le
      change text.length + 1 ≤ ((htmlReplacement c).getD [c] ++ htmlEscape text).length
      rw [List.length_append]
      omega

/-- The escaped text is the text itself exactly if there is nothing to escape. -/
theorem htmlEscape_eq_self_iff (text : List Char) : htmlEscape text = text ↔ Plain text := by
  induction text with
  | nil => simp [htmlEscape, Plain]
  | cons c text ih =>
      have cons : htmlEscape (c :: text) = (htmlReplacement c).getD [c] ++ htmlEscape text := rfl
      rw [cons]
      cases replaced : htmlReplacement c with
      | none => simp [Plain, replaced, ih]
      | some replacement =>
          refine iff_of_false (fun same => ?_) fun plain => ?_
          · have lengths := congrArg List.length same
            have longer := (htmlReplacement_spec replaced).1
            have rest := length_le_htmlEscape text
            simp only [Option.getD_some, List.length_append, List.length_cons] at lengths
            omega
          · cases replaced.symm.trans (plain c List.mem_cons_self)

theorem newline_notMem_htmlEscape {text : List Char} (oneLine : '\n' ∉ text) :
    '\n' ∉ htmlEscape text := by
  intro listed
  obtain ⟨c, isIn, listed⟩ := List.mem_flatMap.mp listed
  cases replaced : htmlReplacement c with
  | none =>
      simp only [replaced, Option.getD_none, List.mem_singleton] at listed
      exact oneLine (listed ▸ isIn)
  | some replacement =>
      rw [replaced] at listed
      exact (htmlReplacement_spec replaced).2 listed

/-- Of the digits of base64 only the plus is escaped, and none is the end of a line. -/
theorem htmlReplacement_digit : ∀ {n : Nat}, n < 64 →
    (htmlReplacement (Base64.digit n) = none ∨ Base64.digit n = '+') ∧
      Base64.digit n ≠ '\n' := by
  decide

theorem newline_notMem_encode (bytes : List UInt8) : '\n' ∉ Base64.encode bytes := by
  intro listed
  rcases Base64.eq_digit_of_mem_encode listed with pad | ⟨n, small, isDigit⟩
  · exact absurd pad (by decide)
  · exact (htmlReplacement_digit small).2 isDigit.symm

theorem plain_encode_iff (bytes : List UInt8) :
    Plain (Base64.encode bytes) ↔ '+' ∉ Base64.encode bytes := by
  constructor
  · intro plain listed
    exact absurd (plain '+' listed) (by decide)
  · intro plus c listed
    rcases Base64.eq_digit_of_mem_encode listed with rfl | ⟨n, small, rfl⟩
    · decide
    · rcases (htmlReplacement_digit small).1 with unescaped | isPlus
      · exact unescaped
      · exact absurd (isPlus ▸ listed) plus

/-- The certificate is read back exactly if its encoding has no plus. -/
theorem decode_htmlEscape_iff (bytes : List UInt8) :
    Base64.decode (htmlEscape (Base64.encode bytes)) = some bytes ↔
      '+' ∉ Base64.encode bytes := by
  constructor
  · intro decoded listed
    have escaped : '&' ∈ htmlEscape (Base64.encode bytes) :=
      List.mem_flatMap.mpr ⟨'+', listed, by decide⟩
    exact absurd (Base64.value_isSome_of_decode decoded escaped (by decide)) (by decide)
  · intro plus
    rw [(htmlEscape_eq_self_iff _).mpr ((plain_encode_iff bytes).mpr plus), Base64.decode_encode]

/-- A client reads back what was filled in exactly if nothing of it is escaped. -/
theorem KubeconfigReader.read_render_iff (reader : KubeconfigReader) {config : Kubeconfig}
    (scalars : config.ScalarFor reader) :
    reader.read config.render = some config ↔ config.IsPlain := by
  rw [Kubeconfig.render, reader.read_template scalars.caCertificate scalars.serverURL scalars.ns
    scalars.token]
  constructor
  · intro read
    obtain ⟨decoded, isDecoded, same⟩ := Option.map_eq_some_iff.mp read
    have isCa : decoded = config.caCertificate := congrArg Kubeconfig.caCertificate same
    subst isCa
    exact ⟨(decode_htmlEscape_iff _).mp isDecoded,
      (htmlEscape_eq_self_iff _).mp (congrArg Kubeconfig.serverURL same),
      (htmlEscape_eq_self_iff _).mp (congrArg Kubeconfig.ns same),
      (htmlEscape_eq_self_iff _).mp (congrArg Kubeconfig.token same)⟩
  · intro plain
    rw [(decode_htmlEscape_iff _).mpr plain.caCertificate,
      (htmlEscape_eq_self_iff _).mpr plain.serverURL, (htmlEscape_eq_self_iff _).mpr plain.ns,
      (htmlEscape_eq_self_iff _).mpr plain.token]
    rfl

/-- The value of a key: the rest of the first line that starts with it. -/
def readField (label text : List Char) : Option (List Char) :=
  (text.splitOn '\n').findSome? fun line =>
    if label.isPrefixOf line then some (line.drop label.length) else none

def readLines (text : List Char) : Option Kubeconfig := do
  let ca ← readField caLabel text
  let caCertificate ← Base64.decode ca
  let serverURL ← readField serverLabel text
  let ns ← readField namespaceLabel text
  let token ← readField tokenLabel text
  return { caCertificate, serverURL, ns, token }

theorem splitOn_kubeconfigTemplate {ca server ns token : List Char} (onCa : '\n' ∉ ca)
    (onServer : '\n' ∉ server) (onNs : '\n' ∉ ns) (onToken : '\n' ∉ token) :
    (kubeconfigTemplate ca server ns token).splitOn '\n' = templateLines ca server ns token := by
  refine List.splitOn_intercalate '\n' ?_ (by simp [templateLines])
  have behind {label value : List Char} (free : '\n' ∉ label) (oneLine : '\n' ∉ value) :
      '\n' ∉ label ++ value := by
    simp [free, oneLine]
  simp only [templateLines, List.forall_mem_cons]
  exact ⟨by decide, by decide, by decide, by decide, by decide, behind (by decide) onCa,
    behind (by decide) onServer, by decide, by decide, by decide, by decide,
    behind (by decide) onNs, by decide, by decide, by decide, by decide, by decide,
    behind (by decide) onToken, by decide, by simp⟩

theorem readField_kubeconfigTemplate {ca server ns token : List Char} (onCa : '\n' ∉ ca)
    (onServer : '\n' ∉ server) (onNs : '\n' ∉ ns) (onToken : '\n' ∉ token) :
    let text := kubeconfigTemplate ca server ns token
    readField caLabel text = some ca ∧ readField serverLabel text = some server ∧
      readField namespaceLabel text = some ns ∧ readField tokenLabel text = some token := by
  intro text
  have lines : text.splitOn '\n' = templateLines ca server ns token :=
    splitOn_kubeconfigTemplate onCa onServer onNs onToken
  unfold readField
  rw [lines]
  exact ⟨rfl, rfl, rfl, rfl⟩

def lineReader : KubeconfigReader where
  scalar value := '\n' ∉ value
  read := readLines
  read_template onCa onServer onNs onToken := by
    obtain ⟨ca, server, ns, token⟩ := readField_kubeconfigTemplate onCa onServer onNs onToken
    simp only [readLines, ca, server, ns, token, Option.bind_eq_bind, Option.bind_some,
      Option.pure_def, Option.map_eq_bind]
    rfl

theorem scalarFor_lineReader {config : Kubeconfig} (server : '\n' ∉ config.serverURL)
    (ns : '\n' ∉ config.ns) (token : '\n' ∉ config.token) : config.ScalarFor lineReader :=
  ⟨newline_notMem_htmlEscape (newline_notMem_encode config.caCertificate),
    newline_notMem_htmlEscape server, newline_notMem_htmlEscape ns,
    newline_notMem_htmlEscape token⟩

/-- discoveryv1.EndpointSlice, by the addresses of the endpoints and the ports. -/
structure ApiEndpoints where
  endpoints : List (List String) := []
  ports : List (Option String × Option Int) := []

/-- The servers of a kubeconfig by cluster, in the order in which the map is gone
through. -/
abbrev Clusters := List (String × String)

structure KubeconfigEnv where
  secret : Except String (FiniteMap String (List UInt8))
  host : String
  configMap : Except String (Option String)
  load : String → Except String Clusters
  endpointSlice : Except String ApiEndpoints
  parseIP : String → Option String

def getKubeconfigFromConfigMap (env : KubeconfigEnv) : Except String Clusters := do
  match ← env.configMap with
  | none => .error "no kubeconfig found in cluster-info configmap"
  | some data => env.load data

/-- net.JoinHostPort. -/
def joinHostPort (host port : String) : String :=
  if ':' ∈ host.toList then "[" ++ host ++ "]:" ++ port else host ++ ":" ++ port

def buildKubeconfigFromEndpoint (env : KubeconfigEnv) : Except String Clusters := do
  let endpointSlice ← env.endpointSlice
  match endpointSlice.endpoints with
  | [] => .error "no endpoints in the kubernetes endpointslice resource"
  | [] :: _ => .error "no addresses in the first endpoint of the kubernetes endpointslice resource"
  | (address :: _) :: _ =>
      match env.parseIP address with
      | none => .error "could not parse ip from endpoint address"
      | some ip =>
          match endpointSlice.ports.find? (·.1 = some "https") with
          | some (_, some port) => return [("", "https://" ++ joinHostPort ip port.repr)]
          | _ => .error "no secure port in the endpointslice"

def getKubeconfig (env : KubeconfigEnv) : Except String Clusters :=
  match getKubeconfigFromConfigMap env with
  | .ok clusters => .ok clusters
  | .error _ => buildKubeconfigFromEndpoint env

/-- The first server that is set, or the host of the manager's own client. -/
def serverURLOf (host : String) (clusters : Clusters) : String :=
  ((clusters.map Prod.snd).find? (· ≠ "")).getD host

def kubeconfigData (env : KubeconfigEnv) (ns : String) : Except String Kubeconfig :=
  match env.secret with
  | .error err => .error ("failed to get ServiceAccount token Secret: " ++ err)
  | .ok data =>
      match getKubeconfig env with
      | .error err => .error ("failed to compute the server URL for kubeconfig: " ++ err)
      | .ok clusters =>
          let ca := (data.lookup "ca.crt").getD []
          let token := (data.lookup "token").getD []
          if token = [] then .error "failed to get ServiceAccount token"
          else if ca = [] then .error "failed to get CA certificate"
          else .ok
            { caCertificate := ca, serverURL := (serverURLOf env.host clusters).toList
              ns := ns.toList, token := textOfBytes token }

def generateKubeconfig (env : KubeconfigEnv) (ns : String) : Except String (List Char) :=
  (kubeconfigData env ns).map Kubeconfig.render

/-- A kubeconfig with the certificate in ASCII, as PEM is, can be read back exactly if
no group of three bytes of the certificate ends in `>` or `~` and nothing of the other
values is escaped. -/
theorem generateKubeconfig_reads_back (reader : KubeconfigReader) (env : KubeconfigEnv)
    (ns : String) {config : Kubeconfig} (filled : kubeconfigData env ns = .ok config)
    (scalars : config.ScalarFor reader)
    (ascii : ∀ byte ∈ config.caCertificate, byte.toNat < 128) :
    ∃ text, generateKubeconfig env ns = .ok text ∧
      (reader.read text = some config ↔
        (∀ byte ∈ Base64.thirds config.caCertificate, byte.toNat ≠ 62 ∧ byte.toNat ≠ 126) ∧
        Plain config.serverURL ∧ Plain config.ns ∧ Plain config.token) := by
  refine ⟨config.render, by rw [generateKubeconfig, filled]; rfl, ?_⟩
  have plus := Base64.plus_mem_encode_iff ascii
  rw [reader.read_render_iff scalars]
  constructor
  · intro plain
    refine ⟨fun byte listed => ?_, plain.serverURL, plain.ns, plain.token⟩
    by_contra ends
    exact plain.caCertificate (plus.mpr ⟨byte, listed, by omega⟩)
  · rintro ⟨ends, server, ns, token⟩
    refine ⟨fun isPlus => ?_, server, ns, token⟩
    obtain ⟨byte, listed, ending⟩ := plus.mp isPlus
    have := ends byte listed
    omega

/-- A kubeconfig for a short certificate. -/
theorem generateKubeconfig_reads_back_short :
    let env : KubeconfigEnv :=
      { secret := .ok (FiniteMap.insertAll ∅ [("ca.crt", [77, 97, 110]), ("token", [116])])
        host := "https://10.0.0.1", configMap := .error "not found"
        load := fun _ => .error "unused"
        endpointSlice := .ok { endpoints := [["10.0.0.2"]], ports := [(some "https", some 6443)] }
        parseIP := some }
    let config : Kubeconfig := ⟨[77, 97, 110], "https://10.0.0.2:6443".toList, "a".toList, ['t']⟩
    ∃ text, generateKubeconfig env "a" = .ok text ∧ lineReader.read text = some config := by
  intro env config
  have plain (text : List Char) (free : text.all fun c => htmlReplacement c = none) :
      Plain text := by
    simpa [Plain] using free
  have ascii : ∀ byte ∈ config.caCertificate, byte.toNat < 128 := by
    simp [config]
  have ends : ∀ byte ∈ Base64.thirds config.caCertificate,
      byte.toNat ≠ 62 ∧ byte.toNat ≠ 126 := by
    simp [config, Base64.thirds]
  obtain ⟨text, returned, reads⟩ := generateKubeconfig_reads_back lineReader env "a"
    (show kubeconfigData env "a" = .ok config by decide)
    (scalarFor_lineReader (by decide) (by decide) (by decide)) ascii
  exact ⟨text, returned, reads.mpr
    ⟨ends, plain _ (by decide), plain _ (by decide), plain _ (by decide)⟩⟩

structure Reordered (env env' : KubeconfigEnv) : Prop where
  rest : env' = { env with load := env'.load }
  load : ∀ text, (∀ err, env.load text = .error err → env'.load text = .error err) ∧
    ∀ clusters, env.load text = .ok clusters →
      ∃ clusters', env'.load text = .ok clusters' ∧ clusters'.Perm clusters

def OneServer (clusters : Clusters) : Prop :=
  ∀ a ∈ clusters, ∀ b ∈ clusters, a.2 ≠ "" → b.2 ≠ "" → a.2 = b.2

theorem serverURLOf_cons (host : String) {cluster : String × String} (set : cluster.2 ≠ "")
    (clusters : Clusters) : serverURLOf host (cluster :: clusters) = cluster.2 := by
  simp [serverURLOf, set]

theorem serverURLOf_perm (host : String) {clusters clusters' : Clusters}
    (same : clusters'.Perm clusters) (one : OneServer clusters) :
    serverURLOf host clusters' = serverURLOf host clusters := by
  unfold serverURLOf
  cases first : (clusters.map Prod.snd).find? (· ≠ "") with
  | none =>
      have empty : (clusters'.map Prod.snd).find? (· ≠ "") = none := by
        rw [List.find?_eq_none] at first ⊢
        intro server listed
        exact first server ((same.map Prod.snd).mem_iff.mp listed)
      rw [empty]
  | some server =>
      obtain ⟨a, aListed, rfl⟩ := List.mem_map.mp (List.mem_of_find?_eq_some first)
      have aSet : a.2 ≠ "" := by simpa using List.find?_some first
      cases second : (clusters'.map Prod.snd).find? (· ≠ "") with
      | none =>
          have missing := List.find?_eq_none.mp second a.2
            ((same.map Prod.snd).mem_iff.mpr (List.mem_map_of_mem aListed))
          simp [aSet] at missing
      | some server' =>
          obtain ⟨b, bListed, rfl⟩ := List.mem_map.mp (List.mem_of_find?_eq_some second)
          have bSet : b.2 ≠ "" := by simpa using List.find?_some second
          rw [Option.getD_some, Option.getD_some]
          exact one b (same.mem_iff.mp bListed) a aListed bSet aSet

theorem kubeconfigData_of_loaded {env : KubeconfigEnv} {ns text : String} {clusters : Clusters}
    (found : env.configMap = .ok (some text)) (loaded : env.load text = .ok clusters)
    (config : Kubeconfig) :
    kubeconfigData env ns = .ok config ↔ ∃ data, env.secret = .ok data ∧
      (data.lookup "token").getD [] ≠ [] ∧ (data.lookup "ca.crt").getD [] ≠ [] ∧
      config =
        { caCertificate := (data.lookup "ca.crt").getD []
          serverURL := (serverURLOf env.host clusters).toList
          ns := ns.toList, token := textOfBytes ((data.lookup "token").getD []) } := by
  have known : getKubeconfig env = .ok clusters := by
    simp only [getKubeconfig, getKubeconfigFromConfigMap, found]
    change (match env.load text with
      | .ok clusters => Except.ok clusters
      | .error _ => buildKubeconfigFromEndpoint env) = .ok clusters
    rw [loaded]
  unfold kubeconfigData
  rw [known]
  cases env.secret with
  | error err => simp
  | ok data =>
      dsimp only
      split_ifs with noToken noCa
      · simp [noToken]
      · simp [noCa]
      · constructor
        · intro same
          exact ⟨data, rfl, noToken, noCa, (Except.ok.inj same).symm⟩
        · rintro ⟨_, ⟨⟩, _, _, rfl⟩
          rfl

def startingWith (env : KubeconfigEnv) (text : String) (clusters : Clusters)
    (cluster : String × String) : KubeconfigEnv :=
  { env with load := fun other =>
      if other = text then .ok (cluster :: clusters.erase cluster) else env.load other }

theorem reordered_startingWith {env : KubeconfigEnv} {text : String} {clusters : Clusters}
    (loaded : env.load text = .ok clusters) {cluster : String × String}
    (listed : cluster ∈ clusters) : Reordered env (startingWith env text clusters cluster) := by
  refine ⟨rfl, fun other => ?_⟩
  by_cases same : other = text
  · subst same
    refine ⟨fun err failed => ?_, fun clusters' isLoaded => ?_⟩
    · cases loaded.symm.trans failed
    · cases loaded.symm.trans isLoaded
      exact ⟨_, if_pos rfl, (List.perm_cons_erase listed).symm⟩
  · refine ⟨fun err failed => (if_neg same).trans failed, fun clusters' isLoaded => ?_⟩
    exact ⟨clusters', (if_neg same).trans isLoaded, List.Perm.refl _⟩

def htmlEntities : List (Char × List Char) :=
  [(Char.ofNat 34, "&#34;".toList), ('&', "&amp;".toList), (Char.ofNat 39, "&#39;".toList),
    ('+', "&#43;".toList), ('<', "&lt;".toList), ('>', "&gt;".toList)]

theorem mem_htmlEntities {c : Char} {replacement : List Char}
    (escaped : htmlReplacement c = some replacement) (visible : c ≠ Char.ofNat 0) :
    (c, replacement) ∈ htmlEntities := by
  unfold htmlReplacement at escaped
  rw [if_neg visible] at escaped
  split_ifs at escaped with quote amp apostrophe plus less greater
  all_goals
    cases escaped
    subst_vars
    decide

/-- Of two characters that are escaped, neither is escaped to the beginning of the other. -/
theorem htmlReplacement_inj {c d : Char} {first second rest rest' : List Char}
    (escaped : htmlReplacement c = some first) (escaped' : htmlReplacement d = some second)
    (visible : c ≠ Char.ofNat 0) (visible' : d ≠ Char.ofNat 0)
    (same : first ++ rest = second ++ rest') : c = d ∧ rest = rest' := by
  have apart : ∀ a ∈ htmlEntities, ∀ b ∈ htmlEntities, a.2 <+: b.2 → a = b := by decide
  have member := mem_htmlEntities escaped visible
  have member' := mem_htmlEntities escaped' visible'
  have row : (c, first) = (d, second) := by
    have begins : first <+: second ++ rest' := ⟨rest, same⟩
    obtain shorter | longer := List.prefix_or_prefix_of_prefix begins (List.prefix_append _ _)
    · exact apart _ member _ member' shorter
    · exact (apart _ member' _ member longer).symm
  obtain ⟨rfl, rfl⟩ := Prod.mk.inj row
  exact ⟨rfl, List.append_cancel_left same⟩

theorem ne_of_htmlReplacement {c d : Char} {replacement rest rest' : List Char}
    (plain : htmlReplacement c = none) (escaped : htmlReplacement d = some replacement)
    (visible : d ≠ Char.ofNat 0) : c :: rest ≠ replacement ++ rest' := by
  have starts : ∀ a ∈ htmlEntities, ∃ code, a.2 = '&' :: code := by
    simp [htmlEntities]
  obtain ⟨code, shape⟩ := starts _ (mem_htmlEntities escaped visible)
  intro same
  have shape : replacement = '&' :: code := shape
  rw [shape] at same
  rw [(List.cons_eq_cons.mp same).1] at plain
  cases plain

/-- Only the byte zero is escaped to something that is also the text of others. -/
theorem htmlEscape_inj {text text' : List Char} (visible : Char.ofNat 0 ∉ text)
    (visible' : Char.ofNat 0 ∉ text') (same : htmlEscape text = htmlEscape text') :
    text = text' := by
  induction text generalizing text' with
  | nil =>
      have short := length_le_htmlEscape text'
      rw [← same] at short
      exact (List.eq_nil_of_length_eq_zero (Nat.le_zero.mp short)).symm
  | cons c text ih =>
      cases text' with
      | nil =>
          have short := length_le_htmlEscape (c :: text)
          rw [same] at short
          exact absurd short (by simp [htmlEscape])
      | cons d text' =>
          simp only [List.mem_cons, not_or] at visible visible'
          obtain ⟨visibleC, visible⟩ := visible
          obtain ⟨visibleD, visible'⟩ := visible'
          change (htmlReplacement c).getD [c] ++ htmlEscape text =
            (htmlReplacement d).getD [d] ++ htmlEscape text' at same
          cases escaped : htmlReplacement c with
          | none =>
              cases escaped' : htmlReplacement d with
              | none =>
                  rw [escaped, escaped'] at same
                  obtain ⟨rfl, rest⟩ := List.cons_eq_cons.mp same
                  rw [ih visible visible' rest]
              | some replacement =>
                  rw [escaped, escaped'] at same
                  exact absurd same (ne_of_htmlReplacement escaped escaped' (Ne.symm visibleD))
          | some replacement =>
              cases escaped' : htmlReplacement d with
              | none =>
                  rw [escaped, escaped'] at same
                  exact absurd same.symm
                    (ne_of_htmlReplacement escaped' escaped (Ne.symm visibleC))
              | some replacement' =>
                  rw [escaped, escaped'] at same
                  obtain ⟨rfl, rest⟩ := htmlReplacement_inj escaped escaped' (Ne.symm visibleC)
                    (Ne.symm visibleD) same
                  rw [ih visible visible' rest]

theorem serverURL_of_render {config : Kubeconfig} {server : List Char}
    (same : ({ config with serverURL := server } : Kubeconfig).render = config.render) :
    htmlEscape server = htmlEscape config.serverURL := by
  simpa [Kubeconfig.render, kubeconfigTemplate, templateLines, List.intercalate_cons_cons]
    using same

section
variable {env : KubeconfigEnv} {ns text : String} {clusters : Clusters} {config : Kubeconfig}
  (found : env.configMap = .ok (some text)) (loaded : env.load text = .ok clusters)
  (filled : kubeconfigData env ns = .ok config)
include found loaded filled

theorem kubeconfigData_reordered {env' : KubeconfigEnv} (reordered : Reordered env env') :
    ∃ clusters', env'.load text = .ok clusters' ∧ clusters'.Perm clusters ∧
      kubeconfigData env' ns =
        .ok { config with serverURL := (serverURLOf env.host clusters').toList } := by
  obtain ⟨clusters', loaded', same⟩ := (reordered.load text).2 clusters loaded
  have found' : env'.configMap = .ok (some text) := by
    rw [reordered.rest]
    exact found
  obtain ⟨data, secret, token, ca, rfl⟩ :=
    (kubeconfigData_of_loaded found loaded config).mp filled
  refine ⟨clusters', loaded', same,
    (kubeconfigData_of_loaded found' loaded' _).mpr ⟨data, ?_, token, ca, ?_⟩⟩
  · rw [reordered.rest]
    exact secret
  · have host : env'.host = env.host := by rw [reordered.rest]
    rw [host]

theorem kubeconfigData_startingWith {cluster : String × String} (listed : cluster ∈ clusters)
    (set : cluster.2 ≠ "") : kubeconfigData (startingWith env text clusters cluster) ns =
      .ok { config with serverURL := cluster.2.toList } := by
  obtain ⟨clusters', loaded', _, data⟩ := kubeconfigData_reordered found loaded filled
    (reordered_startingWith loaded listed)
  have reached : (startingWith env text clusters cluster).load text =
      .ok (cluster :: clusters.erase cluster) := if_pos rfl
  cases reached.symm.trans loaded'
  rw [data, serverURLOf_cons env.host set]

theorem kubeconfigData_of_oneServer (one : OneServer clusters) {env' : KubeconfigEnv}
    (reordered : Reordered env env') : kubeconfigData env' ns = .ok config := by
  obtain ⟨clusters', _, same, data⟩ := kubeconfigData_reordered found loaded filled reordered
  rw [data, serverURLOf_perm env.host same one]
  obtain ⟨_, _, _, _, rfl⟩ := (kubeconfigData_of_loaded found loaded config).mp filled
  rfl

end

/-- The kubeconfig of a cluster with a cluster-info does not depend on the order in which
Go goes through the map of clusters exactly if there is only one server in it. -/
theorem kubeconfig_stable_iff (env : KubeconfigEnv) (ns text : String) {clusters : Clusters}
    {config : Kubeconfig} (found : env.configMap = .ok (some text))
    (loaded : env.load text = .ok clusters) (filled : kubeconfigData env ns = .ok config) :
    ((∀ env', Reordered env env' → kubeconfigData env' ns = .ok config) ↔ OneServer clusters) ∧
    ((∀ cluster ∈ clusters, Char.ofNat 0 ∉ cluster.2.toList) →
      ((∀ env', Reordered env env' → generateKubeconfig env' ns = generateKubeconfig env ns) ↔
        OneServer clusters)) := by
  have always := fun one => @kubeconfigData_of_oneServer env ns text _ _ found loaded filled one
  refine ⟨⟨fun stable a aListed b bListed aSet bSet => ?_, fun one env' => always one⟩,
    fun visible => ⟨fun stable a aListed b bListed aSet bSet => ?_, fun one env' reordered => ?_⟩⟩
  · have first (cluster : String × String) (listed : cluster ∈ clusters)
        (set : cluster.2 ≠ "") : config.serverURL = cluster.2.toList := by
      have same := stable _ (reordered_startingWith loaded listed)
      rw [kubeconfigData_startingWith found loaded filled listed set] at same
      rw [← Except.ok.inj same]
    exact String.toList_injective ((first a aListed aSet).symm.trans (first b bListed bSet))
  · have first (cluster : String × String) (listed : cluster ∈ clusters)
        (set : cluster.2 ≠ "") : htmlEscape cluster.2.toList = htmlEscape config.serverURL := by
      have same := stable _ (reordered_startingWith loaded listed)
      rw [generateKubeconfig, generateKubeconfig, filled,
        kubeconfigData_startingWith found loaded filled listed set] at same
      exact serverURL_of_render (Except.ok.inj same)
    exact String.toList_injective (htmlEscape_inj (visible a aListed) (visible b bListed)
      ((first a aListed aSet).trans (first b bListed bSet).symm))
  · rw [generateKubeconfig, generateKubeconfig, filled, always one reordered]

/-- A cluster-info with one server under two names. -/
theorem kubeconfig_stable_iff_named_twice :
    let env : KubeconfigEnv :=
      { secret := .ok (FiniteMap.insertAll ∅ [("ca.crt", [77, 97, 110]), ("token", [116])])
        host := "https://10.0.0.1", configMap := .ok (some "info")
        load := fun _ => .ok [("", "https://lb"), ("lb", "https://lb")]
        endpointSlice := .error "not found", parseIP := some }
    ∀ env', Reordered env env' → generateKubeconfig env' "a" = generateKubeconfig env "a" := by
  intro env
  refine ((kubeconfig_stable_iff env "a" "info" rfl rfl rfl).2 (by decide)).mpr ?_
  unfold OneServer
  decide

end KubeLB
