import DumpFlow.Proofs.Selection.Batch

/-!
Directory names as a canonical form. With standard characters a directory name stands for itself,
and names that differ only in the case of ASCII letters share one. Targets with such names make one
group, and each of them gets its rank there.
-/

namespace DumpFlow.Selector

variable {s : Selector} {base : Path} {commands names : List String} {ts : List Target}
  {name : String} {t u : Target} {i j : Nat}

/-- Two targets of the group with a directory name, of which the first has the lower rank. -/
def Grouped (base : Path) (name : String) (t u : Target) : Prop :=
  ∃ rank later, rank < later ∧
    t.destination.Same (base.join (Conflict.ranked '-' name rank)) ∧
    u.destination.Same (base.join (Conflict.ranked '-' name later))

/-- A normal form stands for itself and for all names that differ from one another in case. -/
structure Canonical (n : NameNormalizer) : Prop where
  stable : ∀ name, n.normalize (n.normalize name) = n.normalize name
  caseless : ∀ a b, Text.SameButForCase a b → n.normalize a = n.normalize b
  /-- Whatever the kind of the selector, names that differ in case are in one group. -/
  grouped : ∀ s : Selector, s.normalizer = n →
    ∀ base commands ts, s.targets base commands = .ok ts →
      ∀ (i j : Nat) (t u : Target), i < j → ts[i]? = some t → ts[j]? = some u →
        Text.SameButForCase t.label u.label → Grouped base (n.normalize t.label) t u

/-! ### Ranks within a group -/

theorem count_take_lt (less : i < j) (here : names[i]? = some name) :
    (names.take i).count name < (names.take j).count name := by
  have next : (names.take (i + 1)).count name = (names.take i).count name + 1 := by
    rw [List.take_add_one, here]
    simp
  have below := (List.take_sublist_take_left (l := names) (show i + 1 ≤ j from less)).count_le name
  omega

theorem directoryName_of_shared (shared : 1 < names.count name) :
    directoryName names i name = Conflict.ranked '-' name ((names.take i).count name + 1) := by
  rw [directoryName, if_neg (Nat.ne_of_gt shared)]
  rfl

/-- Two targets with one directory name are ranked in their order. -/
theorem Batch.grouped (batch : Batch s base commands) (found : s.targets base commands = .ok ts)
    (less : i < j) (here : ts[i]? = some t) (there : ts[j]? = some u)
    (same : s.nameOf u = s.nameOf t) : Grouped base (s.nameOf t) t u := by
  obtain ⟨-, t', -, -, sited⟩ := batch.origin found here
  obtain ⟨-, u', -, -, sited'⟩ := batch.origin found there
  have own : s.nameOf t' = s.nameOf t := congrArg s.normalizer.normalize sited.label.symm
  have own' : s.nameOf u' = s.nameOf t :=
    (congrArg s.normalizer.normalize sited'.label.symm).trans same
  have first : (ts.map s.nameOf)[i]? = some (s.nameOf t) := by simp [here]
  have second : (ts.map s.nameOf)[j]? = some (s.nameOf t) := by simp [there, same]
  have ranks := count_take_lt less first
  -- Both places count, so neither target keeps the bare name.
  have shared : 1 < (ts.map s.nameOf).count (s.nameOf t) := by
    have before := count_take_lt (show j < j + 1 from Nat.lt_succ_self j) second
    have within := (List.take_sublist (j + 1) (ts.map s.nameOf)).count_le (s.nameOf t)
    omega
  have site := sited.site
  have site' := sited'.site
  rw [own, directoryName_of_shared shared] at site
  rw [own', directoryName_of_shared shared] at site'
  exact ⟨_, _, Nat.succ_lt_succ ranks, site, site'⟩

/-! ### Standard characters -/

theorem lettersWanted_standard :
    NameNormalizer.LettersWanted SelectorConfig.standard.escapeCharacters '-' := by
  have escaped : SelectorConfig.standard.escapeCharacters.toList.all
      (fun c => !c.isUpper && !c.isLower) = true := rfl
  rintro c (rfl | member)
  · exact ⟨rfl, rfl⟩
  · simpa using List.all_eq_true.mp escaped c member

/-- With standard characters normal forms are canonical, whatever their length. -/
theorem canonical_of_sized {maxLength : Nat} (positive : 0 < maxLength) (stem : String) :
    ∃ n, (sized maxLength stem).normalizer = .ok n ∧ Canonical n := by
  obtain ⟨n, normal⟩ := exists_normalizer positive stem
  have made := NameNormalizer.made_of_make normal
  have caseless {a b : String} (same : Text.SameButForCase a b) : n.normalize a = n.normalize b :=
    made.normalize_congr lettersWanted_standard same
  refine ⟨n, normal, fun name => ?_, fun a b => caseless, ?_⟩
  · refine made.normalize_normalize.mpr fun c member unwanted => ?_
    have other := (lettersWanted_standard c unwanted).2
    exact made.not_mem_normalize unwanted other name member
  · rintro s rfl base commands ts found i j t u less here there same
    have batch := (clean_of_made made).batch base commands
    exact batch.grouped found less here there (caseless same).symm

/-- A capital with a dot, one without, and a small letter. -/
theorem canonical_cut :
    let n : NameNormalizer := ⟨2, NameNormalizer.escapeTable "-\"*/:<>?\\|".toList, '_', '-'⟩
    0 < 2 ∧ n.normalize "\u0130X-" = "ix" ∧ n.normalize "ix" = "ix" ∧
      ((Selector.table n).targets ⟨"p"⟩ ["iX-", "\u0130x", "Ix-"]).toOption =
        some [.table "iX-" ⟨"p/ix-1"⟩, .table "\u0130x" ⟨"p/ix-2"⟩, .table "Ix-" ⟨"p/ix-3"⟩] ∧
      Text.SameButForCase "iX-" "Ix-" ∧ Canonical n := by
  obtain ⟨n, made, canonical⟩ := canonical_of_sized (show 0 < 2 by decide) "sql"
  obtain rfl : _ = n := Except.ok.inj made
  have same : Text.SameButForCase "iX-" "Ix-" :=
    .cons (.raised rfl rfl) (.cons (.lowered rfl rfl) (.cons (.same rfl) .nil))
  exact ⟨by decide, by decide +kernel, by decide +kernel, by decide +kernel, same, canonical⟩

end DumpFlow.Selector
