import VisitorNodes.Command.Arguments
/-!
# How arguments are read

Arguments that are read without an error are read in steps of five kinds (`Draft.Reading`). The
requests read so far play no part in any of them. So a request can be taken out: without its
argument, the arguments ask for the same run without that request (`parse_without`).
-/

namespace VisitorNodes.Command

/-! ## 1. The steps of a reading -/

namespace Draft

/-- **The ways in which arguments are read**, from one draft to another. -/
inductive Reading : Draft → List String → Draft → Prop where
  | done (d : Draft) : Reading d [] d
  | help {d d' : Draft} {argument : String} {rest : List String} (hopen : d.optionsEnded = false)
      (hhelp : argument = "--help" ∨ argument = "help")
      (h : Reading { d with help := true } rest d') : Reading d (argument :: rest) d'
  | separator {d d' : Draft} {rest : List String} (hopen : d.optionsEnded = false)
      (h : Reading { d with optionsEnded := true } rest d') : Reading d ("--" :: rest) d'
  | option {d d₁ d' : Draft} {argument value : String} {rest : List String} {flag : Flag}
      (hopen : d.optionsEnded = false) (hhelp : d.help = false)
      (hflag : Flag.ofArgument? argument = some flag) (hset : d.set flag argument value = .ok d₁)
      (h : Reading d₁ rest d') : Reading d (argument :: value :: rest) d'
  | request {d d' : Draft} {argument : String} {rest : List String} {r : Request}
      (hplain : d.optionsEnded = true ∨ argument ≠ "--help" ∧ argument ≠ "help" ∧
        argument.toList.head? ≠ some '-')
      (hr : Request.parse argument = .ok r)
      (h : Reading { d with requests := d.requests ++ [r] } rest d') :
      Reading d (argument :: rest) d'

/-- What was read was read in these ways. -/
theorem reading_of_readArguments {d d' : Draft} {arguments : List String}
    (h : d.readArguments arguments = .ok d') : Reading d arguments d' := by
  fun_induction readArguments d arguments with
  | case1 =>
    cases h
    exact .done _
  | case2 d argument rest hhelp ih =>
    simp only [Bool.and_eq_true, Bool.not_eq_true', Bool.or_eq_true, decide_eq_true_eq] at hhelp
    exact .help hhelp.1 hhelp.2 (ih h)
  | case3 d rest _ hoption ih =>
    simp only [Bool.and_eq_true, Bool.not_eq_true'] at hoption
    exact .separator hoption.1 (ih h)
  | case4 => cases h
  | case5 => cases h
  | case6 => cases h
  | case7 => cases h
  | case8 d argument _ hoption _ hnohelp flag hflag value rest d₁ hset ih =>
    simp only [Bool.and_eq_true, Bool.not_eq_true'] at hoption
    exact .option hoption.1 (Bool.eq_false_iff.mpr hnohelp) hflag hset (ih h)
  | case9 => cases h
  | case10 d argument rest hhelp hoption r hr ih =>
    refine .request ?_ hr (ih h)
    simp only [Bool.and_eq_true, Bool.not_eq_true', Bool.or_eq_true, decide_eq_true_eq, not_and,
      not_or] at hhelp hoption
    by_cases hopen : d.optionsEnded = true
    · exact .inl hopen
    · have hclosed := Bool.eq_false_iff.mpr hopen
      exact .inr ⟨(hhelp hclosed).1, (hhelp hclosed).2, hoption hclosed⟩

/-- An argument that names an option is none of the other special ones. -/
theorem of_ofArgument?_eq_some {argument : String} {flag : Flag}
    (h : Flag.ofArgument? argument = some flag) :
    argument ≠ "--help" ∧ argument ≠ "help" ∧ argument ≠ "--" ∧
      argument.toList.head? = some '-' := by
  obtain ⟨before, after, hnames, _⟩ := List.lookup_eq_some_iff.mp h
  have hall : ∀ named ∈ [("-t", Flag.target), ("--target", .target), ("-n", .namespaceName),
      ("--namespace", .namespaceName), ("-u", .using), ("--using", .using), ("-o", .outDir),
      ("--out-dir", .outDir)], named.1 ≠ "--help" ∧ named.1 ≠ "help" ∧ named.1 ≠ "--" ∧
        named.1.toList.head? = some '-' := by decide
  refine hall (argument, flag) ?_
  rw [hnames]
  exact List.mem_append_right _ List.mem_cons_self

/-- And these ways are read. -/
theorem Reading.readArguments {d d' : Draft} {arguments : List String}
    (h : Reading d arguments d') : d.readArguments arguments = .ok d' := by
  induction h with
  | done d => rfl
  | @help d d' argument rest hopen hhelp _ ih =>
    have hask : (!d.optionsEnded && (argument = "--help" || argument = "help")) = true := by
      simpa [hopen] using hhelp
    rw [Draft.readArguments, if_pos hask]
    exact ih
  | @separator d d' rest hopen _ ih =>
    have hask : ¬ (!d.optionsEnded && ("--" = "--help" || "--" = "help")) = true := by
      rw [hopen]
      decide
    have hmark : (!d.optionsEnded && "--".toList.head? = some '-') = true := by
      rw [hopen]
      decide
    rw [Draft.readArguments, if_neg hask, if_pos hmark, if_pos rfl]
    exact ih
  | @option d d₁ d' argument value rest flag hopen hhelp hflag hset _ ih =>
    obtain ⟨hlong, hshort, hend, hdash⟩ := of_ofArgument?_eq_some hflag
    have hask : ¬ (!d.optionsEnded && (argument = "--help" || argument = "help")) = true := by
      simp [hlong, hshort]
    have hmark : (!d.optionsEnded && argument.toList.head? = some '-') = true := by
      simp [hopen, hdash]
    rw [Draft.readArguments, if_neg hask, if_pos hmark, if_neg hend,
      if_neg (Bool.eq_false_iff.mp hhelp)]
    simp only [hflag, hset]
    exact ih
  | @request d d' argument rest r hplain hr _ ih =>
    have hneither : ¬ (!d.optionsEnded && (argument = "--help" || argument = "help")) = true ∧
        ¬ (!d.optionsEnded && argument.toList.head? = some '-') = true := by
      rcases hplain with hended | ⟨hlong, hshort, hdash⟩
      · simp [hended]
      · simp [hlong, hshort, hdash]
    rw [Draft.readArguments, if_neg hneither.1, if_neg hneither.2]
    simp only [hr]
    exact ih

/-! ## 2. Requests that are taken out -/

/-- An option is set as before when other requests were read. -/
theorem set_requests {d d₁ : Draft} {flag : Flag} {option value : String}
    (h : d.set flag option value = .ok d₁) (rs : List Request) :
    d₁.requests = d.requests ∧
      { d with requests := rs }.set flag option value = .ok { d₁ with requests := rs } := by
  unfold Draft.set at h ⊢
  cases flag with
  | target =>
    simp only at h ⊢
    split at h
    · cases h
    · rename_i hnew
      rw [if_neg hnew]
      cases hparse : Target.parse value with
      | error unknown =>
        rw [hparse] at h
        cases h
      | ok target =>
        rw [hparse] at h
        cases h
        exact ⟨rfl, rfl⟩
  | namespaceName =>
    simp only at h ⊢
    split at h
    · cases h
    · rename_i hnew
      rw [if_neg hnew]
      cases h
      exact ⟨rfl, rfl⟩
  | «using» =>
    cases h
    exact ⟨rfl, rfl⟩
  | outDir =>
    simp only at h ⊢
    split at h
    · cases h
    · rename_i hnew
      rw [if_neg hnew]
      cases h
      exact ⟨rfl, rfl⟩

/-- **The requests read so far play no part in a reading**: those of its arguments come behind
them. -/
theorem Reading.requests {d d' : Draft} {arguments : List String} (h : Reading d arguments d') :
    ∃ read, d'.requests = d.requests ++ read ∧ ∀ rs,
      Reading { d with requests := rs } arguments { d' with requests := rs ++ read } := by
  induction h with
  | done d => exact ⟨[], (List.append_nil _).symm, fun rs => by rw [List.append_nil]; exact .done _⟩
  | help hopen hhelp _ ih =>
    obtain ⟨read, hread, hrest⟩ := ih
    exact ⟨read, hread, fun rs => .help hopen hhelp (hrest rs)⟩
  | separator hopen _ ih =>
    obtain ⟨read, hread, hrest⟩ := ih
    exact ⟨read, hread, fun rs => .separator hopen (hrest rs)⟩
  | option hopen hhelp hflag hset _ ih =>
    obtain ⟨read, hread, hrest⟩ := ih
    refine ⟨read, ?_, fun rs => .option hopen hhelp hflag (set_requests hset rs).2 (hrest rs)⟩
    rw [hread, (set_requests hset []).1]
  | @request d d' argument rest r hplain hr _ ih =>
    obtain ⟨read, hread, hrest⟩ := ih
    refine ⟨r :: read, by rw [hread, List.append_assoc, List.singleton_append], fun rs => ?_⟩
    refine .request hplain hr ?_
    have hnext := hrest (rs ++ [r])
    rwa [List.append_assoc, List.singleton_append] at hnext

/-- A request that was read has an argument. Without it, the others are read as before. -/
theorem Reading.without {d d' : Draft} {arguments : List String} (h : Reading d arguments d')
    {before after : List Request} {r : Request}
    (hr : d'.requests = d.requests ++ (before ++ r :: after)) :
    ∃ front argument back, arguments = front ++ argument :: back ∧
      Request.parse argument = .ok r ∧
      Reading d (front ++ back) { d' with requests := d.requests ++ (before ++ after) } := by
  induction h generalizing before with
  | done d =>
    have hnone : before ++ r :: after = [] :=
      List.append_cancel_left (by rw [← hr, List.append_nil])
    exact absurd hnone (List.append_ne_nil_of_right_ne_nil _ (List.cons_ne_nil _ _))
  | @help d d' argument rest hopen hhelp _ ih =>
    obtain ⟨front, argument', back, rfl, hparse, hrest⟩ := ih hr
    exact ⟨argument :: front, argument', back, rfl, hparse, .help hopen hhelp hrest⟩
  | separator hopen _ ih =>
    obtain ⟨front, argument', back, rfl, hparse, hrest⟩ := ih hr
    exact ⟨"--" :: front, argument', back, rfl, hparse, .separator hopen hrest⟩
  | @option d d₁ d' argument value rest flag hopen hhelp hflag hset _ ih =>
    have hsame := (set_requests hset []).1
    rw [← hsame] at hr ⊢
    obtain ⟨front, argument', back, rfl, hparse, hrest⟩ := ih hr
    exact ⟨argument :: value :: front, argument', back, rfl, hparse,
      .option hopen hhelp hflag hset hrest⟩
  | @request d d' argument rest r' hplain hparse h ih =>
    cases before with
    | nil =>
      -- the argument of the request: what follows is read without it
      obtain ⟨read, hread, hrest⟩ := h.requests
      rw [hread, List.append_assoc, List.singleton_append, List.nil_append] at hr
      obtain ⟨rfl, rfl⟩ := List.cons.inj (List.append_cancel_left hr)
      exact ⟨[], argument, rest, rfl, hparse, hrest d.requests⟩
    | cons first before =>
      rw [List.cons_append, ← List.singleton_append (l := before ++ r :: after),
        ← List.append_assoc]
        at hr
      have hfirst : first = r' := by
        obtain ⟨read, hread, _⟩ := h.requests
        rw [hread, List.append_assoc, List.append_assoc] at hr
        exact (List.cons.inj (List.append_cancel_left hr)).1.symm
      subst hfirst
      obtain ⟨front, argument', back, rfl, hparse', hrest⟩ := ih hr
      refine ⟨argument :: front, argument', back, rfl, hparse', .request hplain hparse ?_⟩
      rwa [List.append_assoc, List.singleton_append] at hrest

end Draft

/-- **Without the argument of a request, arguments ask for the same run without that request.** -/
theorem parse_without {arguments : List String} {s : Settings}
    (h : Invocation.parse arguments = .ok (.generate s)) {before after : List Request} {r : Request}
    (hr : s.requests = before ++ r :: after) :
    ∃ front argument back, arguments = front ++ argument :: back ∧
      Request.parse argument = .ok r ∧
      Invocation.parse (front ++ back)
        = .ok (.generate { s with requests := before ++ after }) := by
  unfold Invocation.parse at h ⊢
  cases hread : Draft.readArguments {} arguments with
  | error e =>
    rw [hread] at h
    cases h
  | ok d =>
    rw [hread] at h
    simp only [Except.map, Except.ok.injEq] at h
    split at h
    · cases h
    · rename_i hhelp
      cases h
      obtain ⟨front, argument, back, harguments, hparse, hrest⟩ :=
        (Draft.reading_of_readArguments hread).without hr
      refine ⟨front, argument, back, harguments, hparse, ?_⟩
      rw [hrest.readArguments]
      simp only [Except.map, if_neg hhelp]
      rfl

end VisitorNodes.Command
