import KubeLB.Foundation.Dns
import KubeLB.Route.NameCollisions

/-!
Whether a generated name is one that the API server takes.

Namespaces are DNS labels and the names of Ingresses, HTTPRoutes and GRPCRoutes
are DNS subdomains, so that a name may hold dots. GenerateName cuts the join of
both at a fixed place and goes on with a hyphen, whatever stands there.
-/

namespace KubeLB
open Dns

/-- What the last characters of a UID are: it has as many as go into a name, and they
are lower-case letters and digits. -/
structure AlnumEnd (uid : String) : Prop where
  long : nameSuffixLength ≤ uid.length
  alnum : ∀ c ∈ uid.toList.drop (uid.length - nameSuffixLength), isAlnum c = true

instance (uid : String) : Decidable (AlnumEnd uid) :=
  decidable_of_iff (nameSuffixLength ≤ uid.length ∧
      (uid.toList.drop (uid.length - nameSuffixLength)).all isAlnum = true)
    ⟨fun parts => ⟨parts.1, List.all_eq_true.mp parts.2⟩,
      fun ends => ⟨ends.long, List.all_eq_true.mpr ends.alnum⟩⟩

/-- The name is cut, and the last character that is kept is a dot. -/
def CutAtDot (appendUID : Bool) (name ns : String) : Prop :=
  (appendUID = true ∨ maxNameLength ≤ (ns ++ "-" ++ name).length) ∧
    (ns ++ "-" ++ name).toList[cutLength - 1]? = some '.'

theorem AlnumEnd.sliceLast {uid suffix : String} (ends : AlnumEnd uid)
    (cut : sliceLast uid nameSuffixLength = some suffix) :
    ∀ c ∈ suffix.toList, isAlnum c = true := by
  obtain ⟨_, ⟨⟩⟩ := Option.ite_none_right_eq_some.mp cut
  rw [String.toList_ofList]
  exact ends.alnum

theorem length_of_generateName {appendUID : Bool} {uid name ns out : String}
    (generated : generateName appendUID uid name ns = some out) : out.length ≤ maxNameLength := by
  obtain ⟨suffix, cut, text⟩ := generateName_eq_some generated
  have size := length_of_sliceLast cut
  rw [← String.length_toList, text]
  split
  · rw [List.length_append, List.length_cons, List.length_take, size]
    simp only [cutLength, maxNameLength, nameSuffixLength]
    omega
  · rename_i whole
    rw [String.length_toList]
    have short := (not_or.mp whole).2
    omega

theorem subdomain_stem {ns name : String} (label : Label ns.toList)
    (subdomain : Subdomain name.toList) : Subdomain (ns ++ "-" ++ name).toList := by
  have joined : (ns ++ "-" ++ name).toList = ns.toList ++ '-' :: name.toList := by
    simp [String.toList_append]
  rw [joined]
  exact label.join subdomain

/-- A generated name is a subdomain unless it was cut behind a dot. -/
theorem subdomain_generateName_iff {appendUID : Bool} {uid name ns out : String}
    (label : Label ns.toList) (subdomain : Subdomain name.toList) (ends : AlnumEnd uid)
    (generated : generateName appendUID uid name ns = some out) :
    Subdomain out.toList ↔ ¬ CutAtDot appendUID name ns := by
  obtain ⟨suffix, cut, text⟩ := generateName_eq_some generated
  have stem := subdomain_stem label subdomain
  rw [text, CutAtDot]
  split
  · rename_i suffixed
    have some' : suffix.toList ≠ [] := by
      refine List.ne_nil_of_length_pos ?_
      rw [length_of_sliceLast cut]
      decide
    rw [not_and]
    refine (stem.cut_iff (cutLength - 1) (ends.sliceLast cut) some').trans ?_
    exact ⟨fun kept _ => kept, fun kept => kept suffixed⟩
  · rename_i whole
    exact iff_of_true stem fun atDot => whole atDot.1

/-- For a namespace, a name and a UID as the API server has them GenerateName returns a
name within the limit, which is a DNS subdomain exactly when it is not cut behind a
dot. -/
theorem generateName_wellFormed_iff (appendUID : Bool) {uid name ns : String}
    (label : Label ns.toList) (subdomain : Subdomain name.toList) (ends : AlnumEnd uid) :
    ∃ out, generateName appendUID uid name ns = some out ∧ out.length ≤ maxNameLength ∧
      (Subdomain out.toList ↔ ¬ CutAtDot appendUID name ns) := by
  obtain ⟨out, generated⟩ :=
    Option.isSome_iff_exists.mp (generateName_isSome appendUID name ns ends.long)
  exact ⟨out, generated, length_of_generateName generated,
    subdomain_generateName_iff label subdomain ends generated⟩

/-- A name with dots that is cut behind a letter. -/
theorem generateName_wellFormed_cut :
    let name := "docs-for-the-customer-portal-and-its-partners.example.com"
    let out := "default-docs-for-the-customer-portal-and-its-partners.e-4a1b"
    generateName false "0f0e-4a1b" name "default" = some out ∧ out.length ≤ maxNameLength ∧
      Subdomain out.toList := by
  intro name out
  obtain ⟨out', generated, short, wellFormed⟩ :=
    generateName_wellFormed_iff false
      (show Label "default".toList by decide)
      (show Subdomain name.toList by decide)
      (show AlnumEnd "0f0e-4a1b" by decide)
  have concrete : generateName false "0f0e-4a1b" name "default" = some out := by decide
  cases concrete.symm.trans generated
  exact ⟨concrete, short, wellFormed.mpr fun cut => absurd cut.2 (by decide)⟩

/-- A host name whose first dot stands where the name of its resource is cut. -/
def longHostName : String := "aaaaaaaaaaaaaaaaaaaaaaaaaaaaaaaaaaaaaaaaaaaaaa.example.com"

/-- The generated name has a label that is a hyphen and the suffix. -/
theorem generateName_cut_at_dot :
    Label "default".toList ∧ Subdomain longHostName.toList ∧ AlnumEnd "0f0e-4a1b" ∧
      generateName false "0f0e-4a1b" longHostName "default" =
        some "default-aaaaaaaaaaaaaaaaaaaaaaaaaaaaaaaaaaaaaaaaaaaaaa.-4a1b" ∧
      ¬ Subdomain "default-aaaaaaaaaaaaaaaaaaaaaaaaaaaaaaaaaaaaaaaaaaaaaa.-4a1b".toList :=
  by decide

end KubeLB
