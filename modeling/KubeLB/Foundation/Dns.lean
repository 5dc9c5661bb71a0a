import Mathlib.Data.List.Basic
import Mathlib.Tactic

/-!
DNS labels and subdomains as RFC 1123 has them, without their length limits, and
the machine that recognises a subdomain one character at a time. Where a name is
joined or cut, what matters is the state in which the machine stands there.
-/

namespace Dns

def isAlnum (c : Char) : Bool := ('a' ≤ c ∧ c ≤ 'z') ∨ ('0' ≤ c ∧ c ≤ '9')

structure Label (l : List Char) : Prop where
  chars : ∀ c ∈ l, isAlnum c = true ∨ c = '-'
  first : ∃ c, l.head? = some c ∧ isAlnum c = true
  last : ∃ c, l.getLast? = some c ∧ isAlnum c = true

instance (l : List Char) : Decidable (Label l) :=
  decidable_of_iff (l.all (fun c => isAlnum c ∨ c = '-') = true ∧
      (l.head?.any isAlnum = true ∧ l.getLast?.any isAlnum = true))
    ⟨fun parts => ⟨by simpa using parts.1, by simpa [Option.any_eq_true] using parts.2.1,
        by simpa [Option.any_eq_true] using parts.2.2⟩,
      fun label => ⟨by simpa using label.chars, by simpa [Option.any_eq_true] using label.first,
        by simpa [Option.any_eq_true] using label.last⟩⟩

inductive Subdomain : List Char → Prop
  | label {l} (label : Label l) : Subdomain l
  | dot {l rest} (label : Label l) (later : Subdomain rest) : Subdomain (l ++ '.' :: rest)

/-- Where the machine stands: at the start of a label, after a letter or a digit, or
after a hyphen. -/
inductive State
  | start | alnum | hyphen
  deriving DecidableEq, Repr

def next (state : State) (c : Char) : Option State :=
  if isAlnum c then some .alnum
  else if c = '-' ∧ state ≠ .start then some .hyphen
  else if c = '.' ∧ state = .alnum then some .start
  else none

/-- The state after a text, or none when a character is refused. -/
def scan (state : State) (l : List Char) : Option State := l.foldlM next state

theorem scan_cons (state : State) (c : Char) (l : List Char) :
    scan state (c :: l) = (next state c).bind fun state' => scan state' l := rfl

theorem scan_append (state : State) (l l' : List Char) :
    scan state (l ++ l') = (scan state l).bind fun state' => scan state' l' := by
  simp only [scan, List.foldlM_append]
  rfl

theorem next_alnum (state : State) {c : Char} (alnum : isAlnum c = true) :
    next state c = some .alnum := if_pos alnum

theorem next_hyphen {state : State} (inside : state ≠ .start) : next state '-' = some .hyphen := by
  cases state with
  | start => exact absurd rfl inside
  | alnum => decide
  | hyphen => decide

theorem next_eq_start_iff {state state' : State} {c : Char} (read : next state c = some state') :
    state' = .start ↔ c = '.' := by
  unfold next at read
  split at read
  · rename_i alnum
    cases read
    refine iff_of_false (by decide) ?_
    rintro rfl
    exact absurd alnum (by decide)
  · split at read
    · rename_i hyphen
      cases read
      refine iff_of_false (by decide) ?_
      rintro rfl
      exact absurd hyphen.1 (by decide)
    · split at read
      · rename_i dot
        cases read
        exact iff_of_true rfl dot.1
      · cases read

theorem scan_inside {l : List Char} (chars : ∀ c ∈ l, isAlnum c = true ∨ c = '-') {state : State}
    (inside : state ≠ .start) (last : ∀ c, l.getLast? = some c → isAlnum c = true)
    (some' : l ≠ []) : scan state l = some .alnum := by
  induction l generalizing state with
  | nil => exact absurd rfl some'
  | cons c l ih =>
      have charsLater : ∀ c ∈ l, isAlnum c = true ∨ c = '-' :=
        fun c member => chars c (List.mem_cons_of_mem _ member)
      rw [scan_cons]
      by_cases ends : l = []
      · subst ends
        rw [next_alnum state (last c rfl)]
        rfl
      · have lastLater : ∀ d, l.getLast? = some d → isAlnum d = true := by
          intro d isLast
          refine last d ?_
          rw [List.getLast?_cons, isLast]
          rfl
        obtain alnum | rfl := chars c List.mem_cons_self
        · rw [next_alnum state alnum]
          exact ih charsLater (by decide) lastLater ends
        · rw [next_hyphen inside]
          exact ih charsLater (by decide) lastLater ends

theorem scan_label {l : List Char} (label : Label l) : scan .start l = some .alnum := by
  obtain ⟨c, first, alnum⟩ := label.first
  obtain ⟨d, last, alnumLast⟩ := label.last
  cases l with
  | nil => cases first
  | cons c' l =>
      cases first
      rw [scan_cons, next_alnum _ alnum]
      by_cases ends : l = []
      · rw [ends]
        rfl
      · refine scan_inside (fun c member => label.chars c (List.mem_cons_of_mem _ member))
          (by decide) (fun e isLast => ?_) ends
        rw [List.getLast?_cons, isLast] at last
        cases last
        exact alnumLast

/-- What has been read of the present label when the machine stands in a state. -/
structure Reads (state : State) (l : List Char) : Prop where
  atStart : state = .start → l = []
  chars : ∀ c ∈ l, isAlnum c = true ∨ c = '-'
  first : state ≠ .start → ∃ c, l.head? = some c ∧ isAlnum c = true
  last : state = .alnum → ∃ c, l.getLast? = some c ∧ isAlnum c = true

theorem reads_start : Reads .start [] where
  atStart _ := rfl
  chars _ member := absurd member List.not_mem_nil
  first inside := absurd rfl inside
  last := by rintro ⟨⟩

theorem Reads.snoc {state : State} {l : List Char} {c : Char} (reads : Reads state l)
    (char : isAlnum c = true ∨ c = '-') {state' : State} (read : next state c = some state') :
    Reads state' (l ++ [c]) where
  atStart := by
    intro start
    have dot := (next_eq_start_iff read).mp start
    subst dot
    exact absurd char (by decide)
  chars := by
    intro d member
    obtain old | new := List.mem_append.mp member
    · exact reads.chars d old
    · rw [List.mem_singleton.mp new]
      exact char
  first := by
    intro _
    by_cases atStart : state = .start
    · rw [reads.atStart atStart]
      refine ⟨c, rfl, ?_⟩
      obtain alnum | rfl := char
      · exact alnum
      · subst atStart
        cases read
    · obtain ⟨d, isFirst, alnum⟩ := reads.first atStart
      exact ⟨d, by rw [List.head?_append, isFirst]; rfl, alnum⟩
  last := by
    intro after
    refine ⟨c, by simp, ?_⟩
    obtain alnum | rfl := char
    · exact alnum
    · subst after
      cases state <;> cases read

/-- What the machine accepts behind the part of a label that it has read. -/
theorem subdomain_of_scan {state : State} {l read : List Char} (reads : Reads state read)
    (accepted : scan state l = some .alnum) : Subdomain (read ++ l) := by
  induction l generalizing state read with
  | nil =>
      cases accepted
      rw [List.append_nil]
      exact .label ⟨reads.chars, reads.first (by decide), reads.last rfl⟩
  | cons c l ih =>
      obtain ⟨state', step, accepted⟩ := Option.bind_eq_some_iff.mp accepted
      by_cases char : isAlnum c = true ∨ c = '-'
      · have later := ih (reads.snoc char step) accepted
        rwa [List.append_assoc] at later
      · have isDot : c = '.' ∧ state = .alnum ∧ state' = .start := by
          unfold next at step
          rw [if_neg fun alnum => char (Or.inl alnum), if_neg fun hyphen => char (Or.inr hyphen.1)]
            at step
          obtain ⟨⟨dot, after⟩, ⟨⟩⟩ := Option.ite_none_right_eq_some.mp step
          exact ⟨dot, after, rfl⟩
        obtain ⟨rfl, rfl, rfl⟩ := isDot
        have label : Label read := ⟨reads.chars, reads.first (by decide), reads.last rfl⟩
        exact .dot label (ih reads_start accepted)

theorem subdomain_iff {l : List Char} : Subdomain l ↔ scan .start l = some .alnum := by
  constructor
  · intro subdomain
    induction subdomain with
    | label label => exact scan_label label
    | dot label later ih =>
        rw [scan_append, scan_label label]
        exact ih
  · exact subdomain_of_scan reads_start

instance (l : List Char) : Decidable (Subdomain l) := decidable_of_iff _ subdomain_iff.symm

/-- What follows a hyphen may be what follows the start of a label. -/
theorem scan_after_hyphen {l : List Char} {state : State} (some' : l ≠ [])
    (accepted : scan .start l = some state) : scan .hyphen l = some state := by
  cases l with
  | nil => exact absurd rfl some'
  | cons c l =>
      obtain ⟨state', step, accepted⟩ := Option.bind_eq_some_iff.mp accepted
      have alnum : isAlnum c = true := by
        unfold next at step
        split at step
        · assumption
        · simp at step
      rw [next_alnum _ alnum] at step
      cases step
      rw [scan_cons, next_alnum _ alnum]
      exact accepted

theorem Subdomain.ne_nil {l : List Char} (subdomain : Subdomain l) : l ≠ [] := by
  rintro rfl
  have accepted := subdomain_iff.mp subdomain
  cases accepted

theorem Label.join {l rest : List Char} (label : Label l) (subdomain : Subdomain rest) :
    Subdomain (l ++ '-' :: rest) := by
  rw [subdomain_iff, scan_append, scan_label label, Option.bind_some, scan_cons,
    next_hyphen (by decide)]
  exact scan_after_hyphen subdomain.ne_nil (subdomain_iff.mp subdomain)

/-- A subdomain with a suffix of letters and digits behind a hyphen, cut after `n + 1`
characters: it stays one unless the last character that is kept is a dot. -/
theorem Subdomain.cut_iff {l suffix : List Char} (subdomain : Subdomain l) (n : Nat)
    (alnum : ∀ c ∈ suffix, isAlnum c = true) (some' : suffix ≠ []) :
    Subdomain (l.take (n + 1) ++ '-' :: suffix) ↔ l[n]? ≠ some '.' := by
  have accepted := subdomain_iff.mp subdomain
  rw [← List.take_append_drop (n + 1) l, scan_append] at accepted
  obtain ⟨state, cut, _⟩ := Option.bind_eq_some_iff.mp accepted
  have tail : scan .hyphen suffix = some .alnum := by
    refine scan_inside (fun c member => Or.inl (alnum c member)) (by decide) ?_ some'
    exact fun c isLast => alnum c (List.mem_of_getLast? isLast)
  have joins : Subdomain (l.take (n + 1) ++ '-' :: suffix) ↔ state ≠ .start := by
    rw [subdomain_iff, scan_append, cut, Option.bind_some, scan_cons]
    by_cases atStart : state = .start
    · subst atStart
      exact iff_of_false (by rintro ⟨⟩) (fun inside => inside rfl)
    · rw [next_hyphen atStart]
      exact iff_of_true tail atStart
  rw [joins, not_iff_not]
  by_cases inside : n < l.length
  · rw [List.take_succ_eq_append_getElem inside, scan_append] at cut
    obtain ⟨before, _, step⟩ := Option.bind_eq_some_iff.mp cut
    rw [scan_cons] at step
    obtain ⟨after, step, same⟩ := Option.bind_eq_some_iff.mp step
    cases same
    rw [List.getElem?_eq_getElem inside, Option.some.injEq]
    exact next_eq_start_iff step
  · have whole : l.take (n + 1) = l := List.take_of_length_le (by omega)
    rw [whole, subdomain_iff.mp subdomain] at cut
    cases cut
    rw [List.getElem?_eq_none (by omega)]
    exact iff_of_false (by decide) (by rintro ⟨⟩)

end Dns
