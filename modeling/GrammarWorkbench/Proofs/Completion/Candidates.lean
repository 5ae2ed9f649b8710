import GrammarWorkbench.Completion
import GrammarWorkbench.Proofs.Legal.Members
import GrammarWorkbench.Proofs.Text.Order

/-!
# Which candidates are offered

One name may be declared as a character set, as a token, as a production and as the grammar, and it
may be a keyword of the notation as well. Then several constructs yield candidates with one label,
and one of them is offered. This file says which labels are offered, in which order, and which
candidate each of them comes with (`GrammarWorkbench.Candidate.ofSnapshot_exact`).

* **What a construct yields** (`GrammarWorkbench.Candidate.Yields`) depends on the names of a
  snapshot and on the options. A construct yields at most one candidate with a label
  (`GrammarWorkbench.Candidate.Yields.eq_of_label`).
* **A candidate stays if it is the first one with its label.** In a sorted list candidates with one
  label are neighbours (`GrammarWorkbench.Candidate.mem_dropRepeated_iff`), and sorting leaves them
  in their order (`GrammarWorkbench.Candidate.find?_mergeSort`).
-/

namespace GrammarWorkbench

namespace Candidate

variable {s : Snapshot} {options : CompletionOptions} {c : Construct}
  {word name last : Text} {a x y : Candidate} {l : List Candidate}

/-! ### What a construct yields -/

/-- **The candidates that a construct yields.** -/
inductive Yields (s : Snapshot) (options : CompletionOptions) : Construct → Candidate → Prop
  /-- A construct that is no placeholder yields its keyword. -/
  | keyword {c : Construct} {word : Text} (hon : options.keywords = true)
      (hword : c.keyword? = some word) :
      Yields s options c
        ⟨word, if options.descriptions then some c.description else none, .keyword, some word⟩
  | charSet {x : Symbol} (hx : x ∈ s.charSets) :
      Yields s options .existingCharSet ⟨x.name, some "character set".toList, .constant, none⟩
  | token {x : Symbol} (hx : x ∈ s.tokens) :
      Yields s options .existingToken ⟨x.name, some "token".toList, .constant, none⟩
  | production {x : Symbol} (hx : x ∈ s.productions) :
      Yields s options .existingProduction ⟨x.name, some "production".toList, .function, none⟩
  | grammar {x : Symbol} (hx : s.grammarName = some x) :
      Yields s options .grammarName ⟨x.name, some "grammar".toList, .module, none⟩
  /-- A name that is used and declared nowhere. -/
  | undeclared {name : Text} (hon : options.undeclaredProductions = true)
      (hused : name ∈ s.references.names) (hnew : ∀ x ∈ s.declared, x.name ≠ name) :
      Yields s options .productionName
        ⟨name, some "undeclared production".toList, .function, none⟩

theorem mem_undeclared_iff :
    name ∈ s.undeclared ↔ name ∈ s.references.names ∧ ∀ x ∈ s.declared, x.name ≠ name := by
  simp [Snapshot.undeclared, Snapshot.isDeclared]

/-- The candidates of a construct are those that it yields. -/
theorem mem_ofConstruct_iff : x ∈ ofConstruct s options c ↔ Yields s options c x := by
  constructor
  · intro h
    unfold ofConstruct at h
    split at h
    · obtain ⟨y, hy, rfl⟩ := List.mem_map.mp h
      exact .charSet hy
    · obtain ⟨y, hy, rfl⟩ := List.mem_map.mp h
      exact .token hy
    · obtain ⟨y, hy, rfl⟩ := List.mem_map.mp h
      exact .production hy
    · obtain ⟨y, hy, rfl⟩ := List.mem_map.mp h
      exact .grammar (Option.mem_toList.mp hy)
    · split at h
      next hon =>
        obtain ⟨name, hname, rfl⟩ := List.mem_map.mp h
        obtain ⟨hused, hnew⟩ := mem_undeclared_iff.mp hname
        exact .undeclared hon hused hnew
      next => cases h
    · split at h
      next hon =>
        obtain ⟨word, hword, rfl⟩ := Option.map_eq_some_iff.mp (Option.mem_toList.mp h)
        exact .keyword hon hword
      next => cases h
  · intro h
    cases h with
    | keyword hon hword =>
      unfold ofConstruct
      split
      case h_6 => simp [hon, hword, ofKeyword]
      all_goals simp [Construct.keyword?, Construct.token?] at hword
    | charSet hx => exact List.mem_map.mpr ⟨_, hx, rfl⟩
    | token hx => exact List.mem_map.mpr ⟨_, hx, rfl⟩
    | production hx => exact List.mem_map.mpr ⟨_, hx, rfl⟩
    | grammar hx => exact List.mem_map.mpr ⟨_, Option.mem_toList.mpr hx, rfl⟩
    | undeclared hon hused hnew =>
      rw [ofConstruct, if_pos hon]
      exact List.mem_map.mpr ⟨_, mem_undeclared_iff.mpr ⟨hused, hnew⟩, rfl⟩

/-- **One construct yields at most one candidate with a label.** -/
theorem Yields.eq_of_label (hx : Yields s options c x) (hy : Yields s options c y)
    (h : x.label = y.label) : x = y := by
  cases hx <;> cases hy <;> simp_all [Construct.keyword?, Construct.token?]

/-! ### Of neighbours, the first one -/

/-- **The order of labels**, in which candidates are listed. -/
def le (x y : Candidate) : Bool :=
  x.label.le y.label

theorem le_trans (x y z : Candidate) (hxy : x.le y = true) (hyz : y.le z = true) :
    x.le z = true :=
  Text.le_trans hxy hyz

theorem le_total (x y : Candidate) : (x.le y || y.le x) = true := by
  rw [Bool.or_eq_true]
  exact Text.le_total x.label y.label

/-- The first candidate with a label is the first one, or has another label than that. -/
theorem find?_cons_eq_some_iff : (a :: l).find? (·.label = x.label) = some x ↔
    x = a ∨ x.label ≠ a.label ∧ l.find? (·.label = x.label) = some x := by
  by_cases hx : a.label = x.label
  · rw [List.find?_cons_of_pos (by simpa using hx)]
    simp [hx, eq_comm]
  · rw [List.find?_cons_of_neg (by simpa using hx)]
    have hne : x ≠ a := by
      rintro rfl
      exact hx rfl
    simp [hne, Ne.symm hx]

/-- Behind a candidate of a sorted list stay the first ones of all further labels. -/
theorem mem_go_iff (h : l.Pairwise fun a b => a.le b = true)
    (hlast : ∀ y ∈ l, last.le y.label = true) :
    x ∈ dropRepeated.go last l ↔ x.label ≠ last ∧ l.find? (·.label = x.label) = some x := by
  induction l generalizing last with
  | nil => simp [dropRepeated.go]
  | cons a l ih =>
    obtain ⟨hfirst, hrest⟩ := List.pairwise_cons.mp h
    obtain ⟨hle, hlast⟩ := List.forall_mem_cons.mp hlast
    rw [dropRepeated.go]
    by_cases ha : a.label = last
    · rw [if_pos ha, ih hrest hlast]
      refine and_congr_right fun hne => ?_
      rw [List.find?_cons_of_neg (by simpa [ha] using Ne.symm hne)]
    · rw [if_neg ha, List.mem_cons, ih hrest hfirst, ← find?_cons_eq_some_iff]
      refine ⟨fun hfind => ⟨?_, hfind⟩, And.right⟩
      -- A label behind `a` is not the last one, or `a` would be between two of them.
      rintro rfl
      rcases List.mem_cons.mp (List.mem_of_find?_eq_some hfind) with rfl | hx
      · exact ha rfl
      · exact ha (Text.le_antisymm (hfirst x hx) hle)

/-- **Of a sorted list the first candidate stays** with each label. -/
theorem mem_dropRepeated_iff (h : l.Pairwise fun a b => a.le b = true) :
    x ∈ dropRepeated l ↔ l.find? (·.label = x.label) = some x := by
  cases l with
  | nil => simp [dropRepeated]
  | cons a l =>
    obtain ⟨hfirst, hrest⟩ := List.pairwise_cons.mp h
    rw [dropRepeated, List.mem_cons, mem_go_iff hrest hfirst, find?_cons_eq_some_iff]

theorem bytes_lt_of_mem_go (h : l.Pairwise fun a b => a.le b = true)
    (hlast : ∀ y ∈ l, last.le y.label = true) (hx : x ∈ dropRepeated.go last l) :
    last.bytes < x.label.bytes := by
  obtain ⟨hne, hfind⟩ := (mem_go_iff h hlast).mp hx
  exact Text.bytes_lt_bytes_iff.mpr ⟨hlast x (List.mem_of_find?_eq_some hfind), hne.symm⟩

theorem pairwise_go (h : l.Pairwise fun a b => a.le b = true)
    (hlast : ∀ y ∈ l, last.le y.label = true) :
    (dropRepeated.go last l).Pairwise fun a b => a.label.bytes < b.label.bytes := by
  induction l generalizing last with
  | nil => exact List.Pairwise.nil
  | cons a l ih =>
    obtain ⟨hfirst, hrest⟩ := List.pairwise_cons.mp h
    rw [dropRepeated.go]
    split
    · exact ih hrest (List.forall_mem_cons.mp hlast).2
    · exact List.pairwise_cons.mpr
        ⟨fun y hy => bytes_lt_of_mem_go hrest hfirst hy, ih hrest hfirst⟩

/-- **The labels of what stays increase**, byte by byte. -/
theorem pairwise_dropRepeated (h : l.Pairwise fun a b => a.le b = true) :
    (dropRepeated l).Pairwise fun a b => a.label.bytes < b.label.bytes := by
  cases l with
  | nil => exact List.Pairwise.nil
  | cons a l =>
    obtain ⟨hfirst, hrest⟩ := List.pairwise_cons.mp h
    exact List.pairwise_cons.mpr
      ⟨fun y hy => bytes_lt_of_mem_go hrest hfirst hy, pairwise_go hrest hfirst⟩

/-! ### The first candidate with a label -/

/-- **Sorting keeps the first candidate** with each label, for it leaves the order of those with one
label as it is. -/
theorem find?_mergeSort (l : List Candidate) (t : Text) :
    (l.mergeSort le).find? (·.label = t) = l.find? (·.label = t) := by
  have hsame : (l.filter (·.label = t)).Pairwise fun a b => a.le b = true := by
    refine List.pairwise_of_forall_mem_list fun a ha b hb => ?_
    have ha := of_decide_eq_true (List.mem_filter.mp ha).2
    have hb := of_decide_eq_true (List.mem_filter.mp hb).2
    rw [le, ha, hb]
    exact Text.le_refl t
  have hsub := (List.sublist_mergeSort le_trans le_total hsame List.filter_sublist).filter
    (·.label = t)
  simp only [List.filter_filter, Bool.and_self] at hsub
  have heq := hsub.eq_of_length ((List.mergeSort_perm l le).filter _).length_eq.symm
  rw [← List.head?_filter, ← List.head?_filter, heq]

/-- All candidates of the legal constructs, in the order of the constructs. -/
def ofLegal (s : Snapshot) (options : CompletionOptions) : List Candidate :=
  s.legal.toList.flatMap (ofConstruct s options)

/-- **A candidate is kept** exactly if it is the first one with its label. -/
theorem mem_ofSnapshot_iff :
    x ∈ ofSnapshot s options ↔ (ofLegal s options).find? (·.label = x.label) = some x := by
  rw [← find?_mergeSort]
  exact mem_dropRepeated_iff (List.pairwise_mergeSort le_trans le_total _)

/-- What a construct yields is the first candidate of the construct with its label. -/
theorem find?_ofConstruct_eq_some_iff :
    (ofConstruct s options c).find? (·.label = x.label) = some x ↔ Yields s options c x := by
  rw [← mem_ofConstruct_iff]
  refine ⟨List.mem_of_find?_eq_some, fun hx => ?_⟩
  cases hy : (ofConstruct s options c).find? (·.label = x.label) with
  | none =>
    have hnot := List.find?_eq_none.mp hy x hx
    simp at hnot
  | some y =>
    have hlabel : y.label = x.label := by simpa using List.find?_some hy
    have hmem := List.mem_of_find?_eq_some hy
    rw [mem_ofConstruct_iff] at hx hmem
    rw [hmem.eq_of_label hx hlabel]

/-- **The first candidate with its label** comes from the first construct that yields the label. -/
theorem find?_ofLegal_eq_some_iff :
    (ofLegal s options).find? (·.label = x.label) = some x ↔
      ∃ c, s.legal.contains c = true ∧ Yields s options c x ∧
        ∀ c', s.legal.contains c' = true → c'.index < c.index →
          ∀ y, Yields s options c' y → y.label ≠ x.label := by
  rw [ofLegal, List.find?_flatMap, List.findSome?_eq_some_iff]
  constructor
  · rintro ⟨before, c, after, hlist, hx, hbefore⟩
    have horder := s.legal.pairwise_toList
    rw [hlist] at horder
    have hc : c ∈ s.legal.toList := hlist ▸ List.mem_append_right _ List.mem_cons_self
    refine ⟨c, ConstructSet.mem_toList.mp hc, find?_ofConstruct_eq_some_iff.mp hx, ?_⟩
    intro c' hc' hlt y hy hlabel
    -- A construct with a smaller index stands before `c`.
    have hc' := ConstructSet.mem_toList.mpr hc'
    rw [hlist] at hc'
    rcases List.mem_append.mp hc' with hc' | hc'
    · have hnot := List.find?_eq_none.mp (hbefore c' hc') y (mem_ofConstruct_iff.mpr hy)
      simp [hlabel] at hnot
    · rcases List.mem_cons.mp hc' with rfl | hc'
      · omega
      · have hlt' := (List.pairwise_cons.mp (List.pairwise_append.mp horder).2.1).1 c' hc'
        omega
  · rintro ⟨c, hc, hx, hfirst⟩
    obtain ⟨before, after, hlist⟩ := List.append_of_mem (ConstructSet.mem_toList.mpr hc)
    refine ⟨before, c, after, hlist, find?_ofConstruct_eq_some_iff.mpr hx, ?_⟩
    intro c' hc'
    have horder := s.legal.pairwise_toList
    rw [hlist] at horder
    have hlt := (List.pairwise_append.mp horder).2.2 c' hc' c List.mem_cons_self
    have hlegal : c' ∈ s.legal.toList := hlist ▸ List.mem_append_left _ hc'
    refine List.find?_eq_none.mpr fun y hy => ?_
    simpa using hfirst c' (ConstructSet.mem_toList.mp hlegal) hlt y (mem_ofConstruct_iff.mp hy)

/-- **A candidate comes from a construct** that is legal, the first one with its label. -/
theorem exists_yields (h : x ∈ ofSnapshot s options) :
    ∃ c, s.legal.contains c = true ∧ Yields s options c x ∧
      ∀ c', s.legal.contains c' = true → c'.index < c.index →
        ∀ y, Yields s options c' y → y.label ≠ x.label :=
  find?_ofLegal_eq_some_iff.mp (mem_ofSnapshot_iff.mp h)

theorem exists_construct (h : x ∈ ofSnapshot s options) :
    ∃ c, s.legal.contains c = true ∧ x ∈ ofConstruct s options c := by
  obtain ⟨c, hlegal, hyields, -⟩ := exists_yields h
  exact ⟨c, hlegal, mem_ofConstruct_iff.mpr hyields⟩

/-! ### What is offered -/

/-- **The labels that are offered** where some constructs are legal. -/
inductive IsOffered (s : Snapshot) (options : CompletionOptions) : Text → Prop
  /-- The keyword of a construct that is no placeholder. -/
  | keyword {c : Construct} {word : Text} (hon : options.keywords = true)
      (hlegal : s.legal.contains c = true) (hplain : c.isPlaceholder = false)
      (hword : c.keyword? = some word) : IsOffered s options word
  | charSet {x : Symbol} (hlegal : s.legal.contains .existingCharSet = true)
      (hx : x ∈ s.charSets) : IsOffered s options x.name
  | token {x : Symbol} (hlegal : s.legal.contains .existingToken = true)
      (hx : x ∈ s.tokens) : IsOffered s options x.name
  | production {x : Symbol} (hlegal : s.legal.contains .existingProduction = true)
      (hx : x ∈ s.productions) : IsOffered s options x.name
  | grammar {x : Symbol} (hlegal : s.legal.contains .grammarName = true)
      (hx : s.grammarName = some x) : IsOffered s options x.name
  /-- A name that is used and declared nowhere. -/
  | undeclared {name : Text} (hon : options.undeclaredProductions = true)
      (hlegal : s.legal.contains .productionName = true) (hused : name ∈ s.references.names)
      (hnew : ∀ x ∈ s.declared, x.name ≠ name) : IsOffered s options name

theorem isOffered_iff : IsOffered s options name ↔
    ∃ c x, s.legal.contains c = true ∧ Yields s options c x ∧ x.label = name := by
  constructor
  · intro h
    cases h with
    | keyword hon hlegal _ hword => exact ⟨_, _, hlegal, .keyword hon hword, rfl⟩
    | charSet hlegal hx => exact ⟨_, _, hlegal, .charSet hx, rfl⟩
    | token hlegal hx => exact ⟨_, _, hlegal, .token hx, rfl⟩
    | production hlegal hx => exact ⟨_, _, hlegal, .production hx, rfl⟩
    | grammar hlegal hx => exact ⟨_, _, hlegal, .grammar hx, rfl⟩
    | undeclared hon hlegal hused hnew => exact ⟨_, _, hlegal, .undeclared hon hused hnew, rfl⟩
  · rintro ⟨c, x, hlegal, hx, rfl⟩
    cases hx with
    | keyword hon hword =>
      have hplain : c.isPlaceholder = false := by
        obtain ⟨t, ht, -⟩ := Option.bind_eq_some_iff.mp hword
        simp [Construct.isPlaceholder, ht]
      exact .keyword hon hlegal hplain hword
    | charSet hx => exact .charSet hlegal hx
    | token hx => exact .token hlegal hx
    | production hx => exact .production hlegal hx
    | grammar hx => exact .grammar hlegal hx
    | undeclared hon hused hnew => exact .undeclared hon hlegal hused hnew

theorem mem_labels_iff : name ∈ (ofSnapshot s options).map label ↔ IsOffered s options name := by
  rw [isOffered_iff]
  constructor
  · intro h
    obtain ⟨x, hx, rfl⟩ := List.mem_map.mp h
    obtain ⟨c, hlegal, hyields, -⟩ := exists_yields hx
    exact ⟨c, x, hlegal, hyields, rfl⟩
  · rintro ⟨c, x, hlegal, hx, rfl⟩
    have hmem : x ∈ ofLegal s options := List.mem_flatMap.mpr
      ⟨c, ConstructSet.mem_toList.mpr hlegal, mem_ofConstruct_iff.mpr hx⟩
    cases hy : (ofLegal s options).find? (·.label = x.label) with
    | none =>
      have hnot := List.find?_eq_none.mp hy x hmem
      simp at hnot
    | some y =>
      have hlabel : y.label = x.label := by simpa using List.find?_some hy
      exact List.mem_map.mpr ⟨y, mem_ofSnapshot_iff.mpr (hlabel ▸ hy), hlabel⟩

/-- **Completion is exact.** The labels of the candidates increase strictly, byte by byte. They are
the labels that are offered. Of all candidates with a label, the one that the first legal construct
yields is kept, and this construct yields no other one. -/
theorem ofSnapshot_exact (s : Snapshot) (options : CompletionOptions) :
    ((ofSnapshot s options).Pairwise fun x y => x.label.bytes < y.label.bytes) ∧
      (∀ name, name ∈ (ofSnapshot s options).map label ↔ IsOffered s options name) ∧
      ∀ x ∈ ofSnapshot s options, ∃ c, s.legal.contains c = true ∧ Yields s options c x ∧
        (∀ y, Yields s options c y → y.label = x.label → y = x) ∧
        ∀ c', s.legal.contains c' = true → c'.index < c.index →
          ∀ y, Yields s options c' y → y.label ≠ x.label := by
  refine ⟨?_, fun _ => mem_labels_iff, ?_⟩
  · exact pairwise_dropRepeated (List.pairwise_mergeSort le_trans le_total _)
  · intro x hx
    obtain ⟨c, hlegal, hyields, hfirst⟩ := exists_yields hx
    exact ⟨c, hlegal, hyields, fun y hy hlabel => hy.eq_of_label hyields hlabel, hfirst⟩

/-- A name that is declared as a token twice and as a production. Tokens come before productions,
whatever the order in which they have become legal. -/
theorem ofSnapshot_exact_repeated :
    let x : Symbol := ⟨"x".toList, ⟨4, 2⟩, none⟩
    let s : Snapshot := { legal := .ofList [.existingProduction, .existingToken, .plus],
                          tokens := [x, x], productions := [x] }
    let kept : Candidate := ⟨"x".toList, some "token".toList, .constant, none⟩
    kept ∈ ofSnapshot s {} ∧ IsOffered s {} "+".toList ∧
      ∃ c, s.legal.contains c = true ∧ Yields s {} c kept ∧
        (∀ y, Yields s {} c y → y.label = kept.label → y = kept) ∧
        ∀ c', s.legal.contains c' = true → c'.index < c.index →
          ∀ y, Yields s {} c' y → y.label ≠ kept.label := by
  intro x s kept
  obtain ⟨-, hlabels, hkept⟩ := ofSnapshot_exact s {}
  have hmem : kept ∈ ofSnapshot s {} := mem_ofSnapshot_iff.mpr (by decide)
  have hplus : "+".toList ∈ (ofSnapshot s {}).map label :=
    List.mem_map.mpr ⟨ofKeyword {} .plus "+".toList, mem_ofSnapshot_iff.mpr (by decide), rfl⟩
  exact ⟨hmem, (hlabels _).mp hplus, hkept kept hmem⟩

end Candidate

end GrammarWorkbench
