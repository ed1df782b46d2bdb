import FilterSync.Proofs.Store.RuleMap

/-!
# Declarative documents

A database keeps two documents of every rule: the stored form, from which rules are loaded, and the
declarative form, which matchers consume. The declarative form leaves nothing out, so that it tells
any two rules apart. And whatever calls a database has served, refused ones among them, the two
documents of a row are those of one rule, and the row has the number of that rule.

Main statements: `Rule.declarative_inj` and `RuleStore.documents_agree`.
-/

namespace FilterSync

open FilterSync.Filter

/-! ## What a declarative document tells -/

theorem Action.name_inj {a b : Action} : a.name = b.name ↔ a = b := by
  constructor
  · intro h
    have hname := congrArg Action.ofName? h
    rwa [Action.ofName?_name, Action.ofName?_name, Option.some.injEq] at hname
  · rintro rfl
    rfl

theorem Json.nat_inj {m n : Nat} : Json.nat m = Json.nat n ↔ m = n := by
  simp [Json.nat, Json.Number.ofNat]

namespace Rule

theorem typesMember_inj {types types' : Option TypeSet} :
    typesMember types = typesMember types' ↔ types = types' := by
  constructor
  · intro h
    have hread := absent?_typesMember types
    rw [h, absent?_typesMember types', Option.some.injEq] at hread
    exact hread.symm
  · rintro rfl
    rfl

/-- The declarative form tells rules apart. -/
theorem declarative_inj {r s : Rule} : r.declarative = s.declarative ↔ r = s := by
  constructor
  · intro h
    simp only [declarative, Json.object.injEq, List.cons.injEq, Prod.mk.injEq, Json.text.injEq,
      true_and, and_true, Action.name_inj, Json.nat_inj, UInt32.toNat_inj] at h
    obtain ⟨haction, hcondition, hid, hpriority⟩ := h
    -- the pattern stands behind the types, of which there may be none
    obtain ⟨htypes, hpattern⟩ := List.append_inj' hcondition rfl
    rw [typesMember_inj] at htypes
    simp only [List.cons.injEq, Prod.mk.injEq, Json.text.injEq, true_and, and_true] at hpattern
    cases r
    cases s
    cases haction
    cases htypes
    cases hpattern
    cases hid
    cases hpriority
    rfl
  · rintro rfl
    rfl

theorem isIntact_declarative (r : Rule) : r.declarative.isIntact = true := by
  have hcondition : Json.membersIntact
      (typesMember r.resourceTypes ++ [("urlFilter", .text r.urlFilter)]) = true := by
    have htypes := Json.membersIntact_iff.1 (membersIntact_typesMember r.resourceTypes)
    rw [Json.membersIntact_iff]
    intro m hm
    rcases List.mem_append.1 hm with hm | hm
    · exact htypes m hm
    · rw [List.mem_singleton.1 hm]
      rfl
  simp [declarative, Json.isIntact, Json.membersIntact, Json.nat, hcondition]

theorem parse?_render_declarative (r : Rule) :
    Json.parse? r.declarative.render = some r.declarative :=
  Json.parse?_render r.isIntact_declarative

end Rule

/-! ## Rows -/

namespace RuleStore

/-- A row holds the two documents of one rule, whose number it has. -/
def Documents (n : Int) (row : RuleRow) : Prop :=
  ∃ r, Rule.decode? row.rule = some r ∧ rowNumber r.id = n ∧
    Json.parse? row.declarative = some r.declarative

theorem documents_ofRule (r : Rule) : Documents (rowNumber r.id) (RuleRow.ofRule r) :=
  ⟨r, r.decode?_encode, rfl, r.parse?_render_declarative⟩

/-- The rows of rules that are kept at their own identifiers. -/
theorem InOrder.documents {t : Table UInt32 Rule} (h : InOrder t) {n : Int} {row : RuleRow}
    (hrow : (n, row) ∈ (inRows t).entries) : Documents n row := by
  obtain ⟨⟨id, r⟩, he, heq⟩ := List.mem_map.1 hrow
  cases heq
  rw [show id = r.id from h.keyed _ he]
  exact documents_ofRule r

/-- The declarative form tells rules apart, and so does its text. Of the rows that a database has
after any calls, answered well or refused, each holds the stored form of a rule with the number of
the row, and the declarative form of that rule. -/
theorem documents_agree :
    (∀ r s : Rule, r.declarative = s.declarative ↔ r = s) ∧
    (∀ r s : Rule, r.declarative.render = s.declarative.render ↔ r = s) ∧
    ∀ calls : List Replacement, ∃ rows, ((new .sqlite).serve calls).2 = database rows ∧
      ∀ n row, (n, row) ∈ rows.entries →
        ∃ r, Rule.decode? row.rule = some r ∧ rowNumber r.id = n ∧
          Json.parse? row.declarative = some r.declarative := by
  refine ⟨fun r s => Rule.declarative_inj, ?_, ?_⟩
  · intro r s
    constructor
    · intro h
      have hparse := r.parse?_render_declarative
      rw [h, s.parse?_render_declarative, Option.some.injEq, Rule.declarative_inj] at hparse
      exact hparse.symm
    · rintro rfl
      rfl
  · intro calls
    obtain ⟨results, t, ht, -, -, hdatabase⟩ := serve_inRows calls InOrder.empty
    refine ⟨inRows t, congrArg Prod.snd hdatabase, ?_⟩
    intro n row hrow
    exact ht.documents hrow

/-- A rule for no type at all is still documented after a call was refused whose first rule went
in, since its second has the same identifier. -/
theorem documents_agree_afterRefusal :
    let untyped : Rule := ⟨3, 1, .block, "||bücher.example^", some (.ofList [])⟩
    let typed : Rule := ⟨7, 2, .allow, "||a.example^", some (.ofList [.script])⟩
    let calls : List Replacement := [⟨false, [], [untyped]⟩, ⟨true, [], [typed, typed]⟩]
    ((new .sqlite).serve calls).1 = [.ok (), .error (.duplicateRuleId 7)] ∧
      ((new .sqlite).serve calls).2 = database ⟨[(3, .ofRule untyped)]⟩ ∧
      ∃ r, Rule.decode? (RuleRow.ofRule untyped).rule = some r ∧ rowNumber r.id = 3 ∧
        Json.parse? (RuleRow.ofRule untyped).declarative = some r.declarative := by
  intro untyped typed calls
  have hanswers : ((new .sqlite).serve calls).1 = [.ok (), .error (.duplicateRuleId 7)] := rfl
  have hrows : ((new .sqlite).serve calls).2 = database ⟨[(3, .ofRule untyped)]⟩ := rfl
  obtain ⟨rows, heq, hdocuments⟩ := documents_agree.2.2 calls
  rw [hrows, database.injEq] at heq
  subst heq
  exact ⟨hanswers, hrows, hdocuments 3 _ List.mem_cons_self⟩

end RuleStore

end FilterSync
