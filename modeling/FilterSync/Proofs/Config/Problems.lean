import FilterSync.Config.Load
import Mathlib.Data.List.Nodup

/-!
# The first problem of a configuration

What makes a configuration usable, and which of several problems is the one that is reported, can
be said without going through the catalog. An entry is to blame for a key that an entry in front of
it has, or else for its URL. The entry to blame that comes first is reported, and only a catalog
without one leaves it to the settings, the first of which that is beyond its limits is reported.

Main statement: `Config.reports_first_problem`.
-/

namespace FilterSync.Config

variable {φ : Type} (urlFault? : String → Option φ)

/-! ## What is required and what is reported -/

/-- Keys are distinct, URLs are URLs, and settings are within their limits. -/
structure Usable (c : Config) : Prop where
  keys : (c.lists.map (·.key)).Nodup
  urls : ∀ e ∈ c.lists, urlFault? e.url = none
  rules : 1 ≤ c.rules.maxRules
  interval : 1 ≤ c.updates.intervalHours ∧ c.updates.intervalHours ≤ 8760
  downloads : 1 ≤ c.updates.concurrentDownloads

/-- What the entry at a place in a catalog is to blame for. -/
inductive Blames (lists : List CatalogEntry) (i : Nat) : Problem φ → Prop
  | repeatedKey {e : CatalogEntry} (place : lists[i]? = some e)
      (old : e.key ∈ (lists.take i).map (·.key)) : Blames lists i (.repeatedKey e.key)
  | badUrl {e : CatalogEntry} {fault : φ} (place : lists[i]? = some e)
      (new : e.key ∉ (lists.take i).map (·.key)) (bad : urlFault? e.url = some fault) :
      Blames lists i (.badUrl e.key fault)

/-- The first setting that is beyond its limits. -/
inductive Oversteps (c : Config) : Problem φ → Prop
  | noRules (zero : c.rules.maxRules = 0) : Oversteps c .noRules
  | noInterval (rules : 1 ≤ c.rules.maxRules) (zero : c.updates.intervalHours = 0) :
      Oversteps c .noInterval
  | longInterval (rules : 1 ≤ c.rules.maxRules) (positive : 1 ≤ c.updates.intervalHours)
      (long : 8760 < c.updates.intervalHours) : Oversteps c .longInterval
  | noDownloads (rules : 1 ≤ c.rules.maxRules) (positive : 1 ≤ c.updates.intervalHours)
      (short : c.updates.intervalHours ≤ 8760) (zero : c.updates.concurrentDownloads = 0) :
      Oversteps c .noDownloads

/-- The problem that counts. -/
inductive Reports (c : Config) : Problem φ → Prop
  | entry {i : Nat} {p : Problem φ} (blames : Blames urlFault? c.lists i p)
      (least : ∀ j < i, ∀ q, ¬Blames urlFault? c.lists j q) : Reports c p
  | setting {p : Problem φ} (entries : ∀ i q, ¬Blames urlFault? c.lists i q)
      (oversteps : Oversteps c p) : Reports c p

variable {urlFault?} {c : Config} {p q : Problem φ}

theorem Blames.unique {lists : List CatalogEntry} {i : Nat} (hp : Blames urlFault? lists i p)
    (hq : Blames urlFault? lists i q) : p = q := by
  cases hp with
  | repeatedKey place old =>
    cases hq with
    | repeatedKey place' old' =>
      cases place.symm.trans place'
      rfl
    | badUrl place' new' bad' =>
      cases place.symm.trans place'
      exact absurd old new'
  | badUrl place new bad =>
    cases hq with
    | repeatedKey place' old' =>
      cases place.symm.trans place'
      exact absurd old' new
    | badUrl place' new' bad' =>
      cases place.symm.trans place'
      cases bad.symm.trans bad'
      rfl

theorem Blames.lt_length {lists : List CatalogEntry} {i : Nat} (h : Blames urlFault? lists i p) :
    i < lists.length := by
  cases h with
  | repeatedKey place | badUrl place => exact (List.getElem?_eq_some_iff.1 place).1

/-! ## Entries -/

/-- Keys are distinct if no entry has the key of one in front of it. -/
theorem nodup_keys_iff {lists : List CatalogEntry} :
    (lists.map (·.key)).Nodup ↔
      ∀ i e, lists[i]? = some e → e.key ∉ (lists.take i).map (·.key) := by
  rw [List.Nodup, List.pairwise_map, List.pairwise_iff_getElem]
  constructor
  · intro hdistinct i e place old
    obtain ⟨e', he', hkey⟩ := List.mem_map.1 old
    obtain ⟨j, hj, rfl⟩ := List.mem_take_iff_getElem.1 he'
    obtain ⟨hi, rfl⟩ := List.getElem?_eq_some_iff.1 place
    exact hdistinct j i (by omega) hi (by omega) hkey
  · intro hnew i j hi hj hij hkey
    apply hnew j lists[j] (List.getElem?_eq_getElem hj)
    exact List.mem_map.2 ⟨lists[i], List.mem_take_iff_getElem.2 ⟨i, by omega, rfl⟩, hkey⟩

/-- A catalog in which no entry is to blame. -/
theorem forall_not_blames_iff {lists : List CatalogEntry} :
    (∀ i p, ¬Blames urlFault? lists i p) ↔
      (lists.map (·.key)).Nodup ∧ ∀ e ∈ lists, urlFault? e.url = none := by
  rw [nodup_keys_iff]
  constructor
  · intro hnone
    have hnew : ∀ i e, lists[i]? = some e → e.key ∉ (lists.take i).map (·.key) :=
      fun i e place old => hnone i _ (.repeatedKey place old)
    refine ⟨hnew, ?_⟩
    intro e he
    obtain ⟨i, place⟩ := List.mem_iff_getElem?.1 he
    cases hurl : urlFault? e.url with
    | none => rfl
    | some fault => exact absurd (.badUrl place (hnew i e place) hurl) (hnone i _)
  · rintro ⟨hnew, hurls⟩ i p hblames
    cases hblames with
    | repeatedKey place old => exact hnew i _ place old
    | badUrl place new bad =>
      rw [hurls _ (List.mem_of_getElem? place)] at bad
      cases bad

variable {seen : List String} {before after : List CatalogEntry} {e : CatalogEntry}

/-- Behind entries with the keys `seen` an entry has the problem that it is to blame for. -/
theorem entryProblem?_eq_some_iff (hseen : ∀ k, k ∈ seen ↔ k ∈ before.map (·.key)) :
    entryProblem? urlFault? seen e = some p ↔
      Blames urlFault? (before ++ e :: after) before.length p := by
  have place : (before ++ e :: after)[before.length]? = some e := by simp
  have hfront : (before ++ e :: after).take before.length = before := List.take_left
  unfold entryProblem?
  by_cases hold : e.key ∈ before.map (·.key)
  · have hcontains : seen.contains e.key = true := List.contains_iff_mem.2 ((hseen _).2 hold)
    rw [if_pos hcontains, Option.some.injEq]
    have hblames : Blames urlFault? (before ++ e :: after) before.length (.repeatedKey e.key) :=
      .repeatedKey place (by rwa [hfront])
    constructor
    · rintro rfl
      exact hblames
    · exact hblames.unique
  · have hcontains : ¬seen.contains e.key = true := fun h =>
      hold ((hseen _).1 (List.contains_iff_mem.1 h))
    rw [if_neg hcontains, Option.map_eq_some_iff]
    constructor
    · rintro ⟨fault, hfault, rfl⟩
      exact .badUrl place (by rwa [hfront]) hfault
    · intro hblames
      cases hblames with
      | repeatedKey place' old =>
        cases place.symm.trans place'
        rw [hfront] at old
        exact absurd old hold
      | badUrl place' new bad =>
        cases place.symm.trans place'
        exact ⟨_, bad, rfl⟩

variable (urlFault?) in
/-- The first entry to blame from some place on, if there is one. -/
inductive FirstBlamed (lists : List CatalogEntry) (n : Nat) : Option (Problem φ) → Prop
  | nobody (innocent : ∀ i, n ≤ i → ∀ q, ¬Blames urlFault? lists i q) : FirstBlamed lists n none
  | entry {i : Nat} {p : Problem φ} (blames : Blames urlFault? lists i p)
      (least : ∀ j, n ≤ j → j < i → ∀ q, ¬Blames urlFault? lists j q) :
      FirstBlamed lists n (some p)

/-- An entry that is not to blame can be left out. -/
theorem FirstBlamed.of_succ {lists : List CatalogEntry} {n : Nat} {p? : Option (Problem φ)}
    (h : FirstBlamed urlFault? lists (n + 1) p?) (hn : ∀ q, ¬Blames urlFault? lists n q) :
    FirstBlamed urlFault? lists n p? := by
  cases h with
  | nobody hnone =>
    apply FirstBlamed.nobody
    intro i hi
    rcases Nat.eq_or_lt_of_le hi with rfl | hlater
    · exact hn
    · exact hnone i hlater
  | entry hblames hleast =>
    apply FirstBlamed.entry hblames
    intro j hj hto
    rcases Nat.eq_or_lt_of_le hj with rfl | hlater
    · exact hn
    · exact hleast j hlater hto

/-- Going through the entries behind some others finds the first of them that is to blame. -/
theorem firstBlamed_entriesProblem? (hseen : ∀ k, k ∈ seen ↔ k ∈ before.map (·.key)) :
    FirstBlamed urlFault? (before ++ after) before.length
      (entriesProblem? urlFault? seen after) := by
  induction after generalizing seen before with
  | nil =>
    apply FirstBlamed.nobody
    intro i hi q hq
    have hlt := hq.lt_length
    rw [List.append_nil] at hlt
    omega
  | cons e after ih =>
    rw [entriesProblem?]
    cases hentry : entryProblem? urlFault? seen e with
    | some p =>
      apply FirstBlamed.entry ((entryProblem?_eq_some_iff hseen).1 hentry)
      intro j hfrom hto
      omega
    | none =>
      have hseen' : ∀ k, k ∈ e.key :: seen ↔ k ∈ (before ++ [e]).map (·.key) := by
        intro k
        simp [hseen k, or_comm]
      have hrest := ih hseen'
      rw [List.append_assoc, List.singleton_append, List.length_append,
        List.length_singleton] at hrest
      apply hrest.of_succ
      intro q hq
      rw [(entryProblem?_eq_some_iff hseen).2 hq] at hentry
      cases hentry

/-! ## Settings -/

theorem one_le_iff {n : UInt64} : 1 ≤ n ↔ n ≠ 0 := by
  rw [UInt64.le_iff_toNat_le, Ne, ← UInt64.toNat_inj]
  exact Nat.one_le_iff_ne_zero

theorem maxIntervalHours_eq : maxIntervalHours = 8760 := rfl

/-- The settings are gone through in order. -/
theorem settingsProblem?_eq_some_iff : c.settingsProblem? = some p ↔ Oversteps c p := by
  unfold settingsProblem?
  rw [maxIntervalHours_eq]
  constructor
  · intro h
    split at h
    · next hzero =>
      cases h
      exact .noRules hzero
    · next hrules =>
      split at h
      · next hzero =>
        cases h
        exact .noInterval (one_le_iff.2 hrules) hzero
      · next hpositive =>
        split at h
        · next hlong =>
          cases h
          exact .longInterval (one_le_iff.2 hrules) (one_le_iff.2 hpositive) hlong
        · next hshort =>
          split at h
          · next hzero =>
            cases h
            exact .noDownloads (one_le_iff.2 hrules) (one_le_iff.2 hpositive)
              (UInt64.not_lt.1 hshort) hzero
          · cases h
  · intro h
    cases h with
    | noRules zero => rw [if_pos zero]
    | noInterval rules zero => rw [if_neg (one_le_iff.1 rules), if_pos zero]
    | longInterval rules positive long =>
      rw [if_neg (one_le_iff.1 rules), if_neg (one_le_iff.1 positive), if_pos long]
    | noDownloads rules positive short zero =>
      rw [if_neg (one_le_iff.1 rules), if_neg (one_le_iff.1 positive),
        if_neg (UInt64.not_lt.2 short), if_pos zero]

theorem settingsProblem?_eq_none_iff :
    (c.settingsProblem? : Option (Problem φ)) = none ↔
      1 ≤ c.rules.maxRules ∧ (1 ≤ c.updates.intervalHours ∧ c.updates.intervalHours ≤ 8760) ∧
        1 ≤ c.updates.concurrentDownloads := by
  unfold settingsProblem?
  rw [maxIntervalHours_eq, one_le_iff, one_le_iff, one_le_iff, ← UInt64.not_lt]
  constructor
  · intro h
    split at h
    · cases h
    · split at h
      · cases h
      · split at h
        · cases h
        · split at h
          · cases h
          · exact ⟨‹_›, ⟨‹_›, ‹_›⟩, ‹_›⟩
  · rintro ⟨hrules, ⟨hpositive, hshort⟩, hdownloads⟩
    rw [if_neg hrules, if_neg hpositive, if_neg hshort, if_neg hdownloads]

/-! ## Configurations -/

theorem firstBlamed_lists (urlFault? : String → Option φ) (lists : List CatalogEntry) :
    FirstBlamed urlFault? lists 0 (entriesProblem? urlFault? [] lists) :=
  (firstBlamed_entriesProblem? (by simp) :
    FirstBlamed urlFault? ([] ++ lists) ([] : List CatalogEntry).length _)

theorem problem?_eq_some_iff : c.problem? urlFault? = some p ↔ Reports urlFault? c p := by
  have hfirst := firstBlamed_lists urlFault? c.lists
  unfold problem?
  cases hentries : entriesProblem? urlFault? [] c.lists with
  | none =>
    rw [hentries] at hfirst
    cases hfirst with
    | nobody innocent =>
      rw [Option.none_or, settingsProblem?_eq_some_iff]
      constructor
      · exact .setting fun i => innocent i (Nat.zero_le i)
      · intro h
        cases h with
        | entry blames least => exact absurd blames (innocent _ (Nat.zero_le _) _)
        | setting entries oversteps => exact oversteps
  | some p' =>
    rw [hentries] at hfirst
    cases hfirst with
    | @entry i _ blames least =>
      rw [Option.some_or, Option.some.injEq]
      constructor
      · rintro rfl
        exact .entry blames fun j => least j (Nat.zero_le j)
      · intro h
        cases h with
        | @entry i' _ blames' least' =>
          -- of two first entries neither comes before the other
          rcases Nat.lt_trichotomy i i' with hlt | rfl | hgt
          · exact absurd blames (least' i hlt _)
          · exact blames.unique blames'
          · exact absurd blames' (least i' (Nat.zero_le i') hgt _)
        | setting entries oversteps => exact absurd blames (entries _ _)

theorem problem?_eq_none_iff : c.problem? urlFault? = none ↔ Usable urlFault? c := by
  have hentries : entriesProblem? urlFault? [] c.lists = none ↔
      (c.lists.map (·.key)).Nodup ∧ ∀ e ∈ c.lists, urlFault? e.url = none := by
    have hfirst := firstBlamed_lists urlFault? c.lists
    rw [← forall_not_blames_iff]
    generalize entriesProblem? urlFault? [] c.lists = p? at hfirst
    cases hfirst with
    | nobody innocent => exact iff_of_true rfl fun i => innocent i (Nat.zero_le i)
    | entry blames least => exact iff_of_false nofun fun hnone => hnone _ _ blames
  unfold problem?
  rw [Option.or_eq_none_iff, hentries, settingsProblem?_eq_none_iff]
  constructor
  · rintro ⟨⟨hkeys, hurls⟩, hrules, hinterval, hdownloads⟩
    exact ⟨hkeys, hurls, hrules, hinterval, hdownloads⟩
  · intro h
    exact ⟨⟨h.keys, h.urls⟩, h.rules, h.interval, h.downloads⟩

/-- A configuration that was loaded is usable. -/
theorem usable_of_ofText {text : String} (h : ofText text = .ok c) : Usable Url.fault? c := by
  unfold ofText at h
  split at h
  · cases h
  · next loaded hloaded =>
    unfold checked at h
    split at h
    · next hnone =>
      cases h
      exact problem?_eq_none_iff.1 hnone
    · cases h

/-- Whatever a URL is taken to be, just the usable configurations have no problem, and of any
other the problem that counts is the one that is found. -/
theorem reports_first_problem (urlFault? : String → Option φ) (c : Config) :
    (c.problem? urlFault? = none ↔ Usable urlFault? c) ∧
    ∀ p, c.problem? urlFault? = some p ↔ Reports urlFault? c p :=
  ⟨problem?_eq_none_iff, fun _ => problem?_eq_some_iff⟩

/-- Of an entry behind one with the same key the key is reported and not the URL, and no setting. -/
example : problem? (fun url => if url = "bad" then some () else none)
    { lists := [⟨"a", "A", "good", true⟩, ⟨"a", "B", "bad", true⟩, ⟨"b", "C", "bad", true⟩]
      rules := ⟨0, 1000⟩ } = some (.repeatedKey "a") := by decide

end FilterSync.Config
