import FleetConfig.Proofs.Group.RuleIds
import FleetConfig.Proofs.Renumbering

/-!
# Renumbered rules

Identifiers that are handed out may clash with identifiers that rules have of their
own.  As long as they do not, neither from the one supply nor from the other, and
none is repeated in one supply only, a group set is readable with both or with none,
and what is read differs in the handed out identifiers only: each is traded for the
one that was handed out in the same turn.
-/

namespace FleetConfig

namespace Text

/-- A text that is found to be repeated is one of the texts. -/
theorem mem_of_firstRepeated?_eq_some
    {seen texts : List String}
    {repeated : String}
    (found : firstRepeated? seen texts = some repeated) :
    repeated ∈ texts := by
  induction texts generalizing seen with
  | nil =>
      contradiction
  | cons text rest inductionHypothesis =>
      rw [firstRepeated?] at found
      split at found
      case isTrue =>
        cases found
        exact List.mem_cons_self
      case isFalse =>
        exact List.mem_cons_of_mem text (inductionHypothesis found)

/-- Texts that are renamed one-to-one are repeated where they were. -/
theorem firstRepeated?_map
    {rename : String → String}
    {seen texts : List String}
    (injective : Set.InjOn rename {text | text ∈ seen ∨ text ∈ texts}) :
    firstRepeated? (seen.map rename) (texts.map rename) =
      (firstRepeated? seen texts).map rename := by
  induction texts generalizing seen with
  | nil =>
      rfl
  | cons text rest inductionHypothesis =>
      have isSeen : rename text ∈ seen.map rename ↔ text ∈ seen := by
        refine ⟨fun renamed => ?_, List.mem_map_of_mem⟩
        obtain ⟨other, member, same⟩ := List.mem_map.mp renamed
        have equal :=
          injective (.inl member) (.inr List.mem_cons_self) same
        exact equal ▸ member
      have later :
          firstRepeated? ((text :: seen).map rename) (rest.map rename) =
            (firstRepeated? (text :: seen) rest).map rename := by
        refine inductionHypothesis (injective.mono ?_)
        rintro other (member | member)
        · rcases List.mem_cons.mp member with rfl | member
          · exact .inr List.mem_cons_self
          · exact .inl member
        · exact .inr (List.mem_cons_of_mem text member)
      rw [List.map_cons] at later ⊢
      rw [firstRepeated?, firstRepeated?]
      simp only [List.contains_eq_mem, isSeen]
      split
      case isTrue =>
        rfl
      case isFalse =>
        exact later

end Text

namespace Rule

/-- A rule under another identifier. -/
def renamed
    (rename : String → String)
    (rule : Rule) :
    Rule :=
  { rule with id := rename rule.id }

/-- The identifier that a rule has of its own. -/
def ownId? : Value → Option String
  | .map entries =>
      match (Entries.find? entries (.text "id")).map Schema.identifier with
      | some (.valid id) =>
          some id
      | _ =>
          none
  | _ =>
      none

/-- None of the identifiers that are handed out next is among some identifiers. -/
def SupplyAvoids
    (supply : IdSupply)
    (taken : Nat)
    (ids : List String) :
    Prop :=
  ∀ turn < taken, supply.id turn ∉ ids

/-- Identifiers are handed out in the same turn. -/
def HandedOut
    (supply other : IdSupply)
    (taken : Nat)
    (id otherId : String) :
    Prop :=
  ∃ turn < taken, id = supply.id turn ∧ otherId = other.id turn

/-- What is handed out after some turns is handed out all in all. -/
theorem HandedOut.within
    {supply other : IdSupply}
    {first taken total : Nat}
    {id otherId : String}
    (handedOut : HandedOut (supply.after first) (other.after first) taken id otherId)
    (below : first + taken ≤ total) :
    HandedOut supply other total id otherId := by
  obtain ⟨turn, turnBelow, given, traded⟩ := handedOut
  exact ⟨first + turn, by omega, given, traded⟩

/--
An identifier stays as it is, or it is one that was handed out and is traded for the
one that was handed out in the same turn.
-/
def Renumbers
    (supply other : IdSupply)
    (taken : Nat)
    (rename : String → String)
    (id : String) :
    Prop :=
  rename id = id ∨ HandedOut supply other taken id (rename id)

/-- Trade identifiers that the one supply hands out for those that the other one does. -/
def renumber
    (supply other : IdSupply)
    (taken : Nat)
    (id : String) :
    String :=
  match (List.range taken).find? fun turn => supply.id turn == id with
  | some turn =>
      other.id turn
  | none =>
      id

section Renumber

variable {supply other : IdSupply} {taken : Nat}

theorem renumbers_renumber
    (supply other : IdSupply)
    (taken : Nat)
    (id : String) :
    Renumbers supply other taken (renumber supply other taken) id := by
  unfold Renumbers renumber
  split
  case h_1 turn found =>
    have sameId := List.find?_some found
    exact .inr ⟨turn, List.mem_range.mp (List.mem_of_find?_eq_some found),
      (beq_iff_eq.mp sameId).symm, rfl⟩
  case h_2 =>
    exact .inl rfl

theorem renumber_of_avoid
    {ids : List String}
    (avoid : SupplyAvoids supply taken ids)
    {id : String}
    (member : id ∈ ids) :
    renumber supply other taken id = id := by
  rcases renumbers_renumber supply other taken id with
      same | ⟨turn, below, rfl, _⟩
  · exact same
  · exact absurd member (avoid turn below)

theorem renumber_handedOut
    (alike : supply.RepeatsLike other taken)
    {turn : Nat}
    (below : turn < taken) :
    renumber supply other taken (supply.id turn) = other.id turn := by
  unfold renumber
  split
  case h_1 found isFound =>
    have sameId := List.find?_some isFound
    have foundBelow := List.mem_range.mp (List.mem_of_find?_eq_some isFound)
    exact (alike found foundBelow turn below).mp (beq_iff_eq.mp sameId)
  case h_2 notFound =>
    have apart := List.find?_eq_none.mp notFound turn (List.mem_range.mpr below)
    exact absurd (beq_self_eq_true _) apart

/-- Where neither supply clashes with the identifiers of rules, trading is one-to-one. -/
theorem renumber_injOn
    {ids : List String}
    (alike : supply.RepeatsLike other taken)
    (avoid : SupplyAvoids supply taken ids)
    (otherAvoid : SupplyAvoids other taken ids) :
    Set.InjOn (renumber supply other taken)
      {id | id ∈ ids ∨ ∃ turn < taken, id = supply.id turn} := by
  rintro id (member | ⟨turn, below, rfl⟩) next
    (nextMember | ⟨nextTurn, nextBelow, rfl⟩) same
  · rwa [renumber_of_avoid avoid member, renumber_of_avoid avoid nextMember] at same
  · rw [renumber_of_avoid avoid member, renumber_handedOut alike nextBelow]
      at same
    exact absurd (same ▸ member) (otherAvoid nextTurn nextBelow)
  · rw [renumber_of_avoid avoid nextMember, renumber_handedOut alike below]
      at same
    exact absurd (same ▸ nextMember) (otherAvoid turn below)
  · rw [renumber_handedOut alike below, renumber_handedOut alike nextBelow]
      at same
    exact (alike turn below nextTurn nextBelow).mpr same

end Renumber

section Reading

variable {supply other : IdSupply} {rename : String → String}

/-- A rule is read with the other supply as the same rule under the other identifier. -/
theorem read_renamed
    {document : Value}
    (own : ∀ id ∈ ownId? document, rename id = id)
    (trades :
      idsTaken document ≠ 0 →
        rename (supply.id 0) = other.id 0) :
    read other document = (read supply document).map (renamed rename) := by
  cases document with
  | map entries =>
      have id :
          Schema.withDefault entries "id" (other.id 0) Schema.identifier =
            (Schema.withDefault entries "id" (supply.id 0)
              Schema.identifier).map rename := by
        rw [idsTaken_map] at trades
        unfold ownId? at own
        unfold Schema.withDefault
        cases found : Entries.find? entries (.text "id") with
        | none =>
            rw [found] at trades
            exact congrArg Checked.valid (trades Nat.one_ne_zero).symm
        | some written =>
            cases identified : Schema.identifier written with
            | invalid complaints =>
                simp only [identified]
                rfl
            | valid id =>
                simp only [found, Option.map_some, identified] at own
                simp only [identified]
                exact congrArg Checked.valid (own id rfl).symm
      have parts :
          (fun id => ofParts (rename id)) =
            fun id path operator expected =>
              (ofParts id path operator expected).map (renamed rename) := by
        funext id path operator expected
        unfold ofParts
        cases Condition.ofParts operator expected <;> rfl
      unfold read
      rw [Schema.record_eq_valid_iff.mpr rfl, Checked.andThen_valid,
        Checked.andThen_valid]
      dsimp only
      rw [id, Checked.functor_map_map, parts, Checked.map_andThen]
      generalize Schema.withDefault entries "id" _ _ = id
      generalize Schema.required entries "fact_path" _ = path
      generalize Schema.required entries "operator" _ = operator
      generalize Schema.withDefault entries "value" _ _ = expected
      cases id <;> cases path <;> cases operator <;> cases expected <;> rfl
  | scalar value =>
      rfl
  | list items =>
      rfl

/-- Rules are read one after the other as the same rules under the other identifiers. -/
theorem readFrom_renamed
    {documents : List Value}
    (own :
      ∀ document ∈ documents, ∀ id ∈ ownId? document, rename id = id)
    (trades :
      ∀ turn < documents.foldr (idsTaken · + ·) 0,
        rename (supply.id turn) = other.id turn)
    (position : Nat) :
    readFrom other position documents =
      (readFrom supply position documents).map
        (Checked.map (renamed rename)) := by
  induction documents generalizing supply other position with
  | nil =>
      rfl
  | cons document rest inductionHypothesis =>
      rw [List.foldr_cons] at trades
      have tradesHere :
          idsTaken document ≠ 0 → rename (supply.id 0) = other.id 0 :=
        fun taken => trades 0 (by omega)
      have tradesLater :
          ∀ turn < rest.foldr (idsTaken · + ·) 0,
            rename ((supply.after (idsTaken document)).id turn) =
              (other.after (idsTaken document)).id turn :=
        fun turn below => trades (idsTaken document + turn) (by omega)
      have first := read_renamed (own document List.mem_cons_self) tradesHere
      have others :=
        inductionHypothesis
          (fun later member => own later (List.mem_cons_of_mem document member))
          tradesLater (position + 1)
      rw [readFrom, readFrom, List.map_cons, first, others, Checked.under_map]

/-- A rule that takes no identifier has one of its own. -/
theorem ownId?_of_read
    {document : Value}
    {rule : Rule}
    (noneTaken : idsTaken document = 0)
    (isRead : read supply document = .valid rule) :
    ownId? document = some rule.id := by
  obtain ⟨entries, rfl, reads⟩ := read_eq_valid_iff.mp isRead
  rw [idsTaken_map] at noneTaken
  rcases Schema.withDefault_eq_valid_iff.mp reads.id with
      ⟨written, found, identified⟩ | ⟨missing, _⟩
  · simp only [ownId?, found, Option.map_some, identified]
  · rw [missing] at noneTaken
    contradiction

/-- Every rule of a list has an identifier of its own or one that was handed out. -/
theorem id_of_readInTurn
    {documents : List Value}
    {rules : List Rule}
    (inTurn : Schema.ReadInTurn read idsTaken supply documents rules)
    {rule : Rule}
    (member : rule ∈ rules) :
    rule.id ∈ documents.filterMap ownId? ∨
      ∃ turn < documents.foldr (idsTaken · + ·) 0,
        rule.id = supply.id turn := by
  induction inTurn with
  | nil =>
      contradiction
  | @cons supply document first documents rules isRead _ inductionHypothesis =>
      rw [List.foldr_cons]
      rcases List.mem_cons.mp member with rfl | inRest
      · by_cases noneTaken : idsTaken document = 0
        · exact .inl (List.mem_filterMap.mpr
            ⟨document, List.mem_cons_self, ownId?_of_read noneTaken isRead⟩)
        · exact .inr ⟨0, by omega, id_of_read noneTaken isRead⟩
      · rcases inductionHypothesis inRest with owns | ⟨turn, below, handedOut⟩
        · obtain ⟨other, listed, own⟩ := List.mem_filterMap.mp owns
          exact .inl (List.mem_filterMap.mpr
            ⟨other, List.mem_cons_of_mem document listed, own⟩)
        · exact .inr ⟨idsTaken document + turn, by omega, handedOut⟩

end Reading

end Rule

namespace Group

/-- A group whose rules are under other identifiers. -/
def renamingRules
    (rename : String → String)
    (group : Group) :
    Group :=
  { group with rules := group.rules.map (Rule.renamed rename) }

/-- The identifiers that the rules of a group have of their own. -/
def ownRuleIds : Value → List String
  | .map entries =>
      match Entries.find? entries (.text "rules") with
      | some (.list rules) =>
          rules.filterMap Rule.ownId?
      | _ =>
          []
  | _ =>
      []

/-- The identifiers that are handed out in a group clash with none that its rules have. -/
def ClashFree
    (supply : IdSupply)
    (document : Value) :
    Prop :=
  Rule.SupplyAvoids supply (idsTaken document) (ownRuleIds document)

/-- Groups are free of clashes, each with what those before it leave of the supply. -/
def AreClashFree (supply : IdSupply) : List Value → Prop
  | [] =>
      True
  | document :: rest =>
      ClashFree supply document ∧
        AreClashFree (supply.after (idsTaken document)) rest

/-- A group is the other one but for the identifiers that were handed out. -/
def Renumbered
    (supply other : IdSupply)
    (taken : Nat)
    (group otherGroup : Group) :
    Prop :=
  ∃ rename,
    (∀ rule ∈ group.rules, Rule.Renumbers supply other taken rename rule.id) ∧
      otherGroup = group.renamingRules rename

theorem Renumbered.refl
    (supply other : IdSupply)
    (taken : Nat)
    (group : Group) :
    Renumbered supply other taken group group := by
  refine ⟨fun id => id, fun _ _ => .inl rfl, ?_⟩
  exact (congrArg (fun rules => { group with rules }) (List.map_id _)).symm

/-- Put a group together from its fields and from rules that have been read. -/
def assemble
    (entries : Entries)
    (rules : Checked (List Rule)) :
    Checked Group :=
  let optionally := fun {α : Type} (name : String) (default : α) (read : Value → Checked α) =>
    Schema.withDefault entries name default read
  Group.mk
    <$> Schema.required entries "id" Schema.identifier
    <*> optionally "name" "" Schema.text
    <*> optionally "description" "" Schema.text
    <*> optionally "parent_id" none (Schema.optional Schema.identifier)
    <*> optionally "environment" none readEnvironment
    <*> optionally "is_environment_group" false Schema.flag
    <*> optionally "match_all_nodes" false Schema.flag
    <*> optionally "rule_match_type" .all readMatchType
    <*> rules
    <*> optionally "pinned_nodes" [] readPinnedNodes
    <*> optionally "classes" [] readClasses
    <*> optionally "parameters" [] Schema.fields
    <*> optionally "variables" [] Schema.fields

/-- The supply matters for the rules alone. -/
theorem read_eq_assemble
    (supply : IdSupply)
    (entries : Entries) :
    read supply (.map entries) =
      (assemble entries
        (Schema.withDefault entries "rules" [] (Rule.readList supply))).andThen
          complete := by
  unfold read assemble
  rw [Schema.record_eq_valid_iff.mpr rfl, Checked.andThen_valid]

/-- Rules that are changed before or after a group is put together. -/
theorem assemble_map
    (entries : Entries)
    (rules : Checked (List Rule))
    (change : List Rule → List Rule) :
    assemble entries (rules.map change) =
      (assemble entries rules).map fun group =>
        { group with rules := change group.rules } := by
  unfold assemble
  simp only [Checked.seq_map, Checked.map_seq, Checked.map_functor_map]

/-- Rules that have been read are put into the group that is read without them. -/
theorem assemble_valid
    (entries : Entries)
    (rules : List Rule) :
    assemble entries (.valid rules) =
      (assemble entries (.valid [])).map fun group => { group with rules } :=
  assemble_map entries (.valid []) fun _ => rules

section Reading

variable {supply other : IdSupply} {rename : String → String} {entries : Entries}

/-- The rules of a group are read as the same rules under the other identifiers. -/
theorem rules_renamed
    (own : ∀ id ∈ ownRuleIds (.map entries), rename id = id)
    (trades :
      ∀ turn < idsTaken (.map entries),
        rename (supply.id turn) = other.id turn) :
    Schema.withDefault entries "rules" [] (Rule.readList other) =
      (Schema.withDefault entries "rules" [] (Rule.readList supply)).map
        (List.map (Rule.renamed rename)) := by
  unfold ownRuleIds at own
  unfold idsTaken at trades
  unfold Schema.withDefault
  cases found : Entries.find? entries (.text "rules") with
  | none =>
      rfl
  | some written =>
      cases written with
      | list documents =>
          simp only [found] at own trades
          have renamed :=
            Rule.readFrom_renamed
              (fun document member id owns =>
                own id (List.mem_filterMap.mpr ⟨document, member, owns⟩))
              trades 0
          dsimp only
          rw [← Checked.under_map]
          simp only [Rule.readList, Schema.items, Checked.andThen_valid,
            renamed, Checked.sequence_map]
      | scalar value =>
          rfl
      | map written =>
          rfl

/-- Every rule of a group has an identifier of its own or one that was handed out. -/
theorem ruleId_of_read
    {rules : List Rule}
    (isRead :
      Schema.withDefault entries "rules" [] (Rule.readList supply) =
        .valid rules)
    {rule : Rule}
    (member : rule ∈ rules) :
    rule.id ∈ ownRuleIds (.map entries) ∨
      ∃ turn < idsTaken (.map entries),
        rule.id = supply.id turn := by
  rcases Schema.withDefault_eq_valid_iff.mp isRead with
      ⟨written, found, valid⟩ | ⟨_, rfl⟩
  · rw [Rule.readList_eq_suppliedList] at valid
    obtain ⟨documents, rfl, inTurn⟩ := Schema.suppliedList_eq_valid_iff.mp valid
    simp only [ownRuleIds, idsTaken, found]
    exact Rule.id_of_readInTurn inTurn member
  · contradiction

/-- A group is complete, or complained about, whatever identifiers were handed out. -/
theorem complete_renamed
    {taken : Nat}
    {group : Group}
    (renumbers :
      ∀ rule ∈ group.rules, Rule.Renumbers supply other taken rename rule.id)
    (injective : Set.InjOn rename {id | ∃ rule ∈ group.rules, rule.id = id}) :
    Checked.Related (Rule.HandedOut supply other taken)
      (Renumbered supply other taken) (complete group)
      (complete (group.renamingRules rename)) := by
  have ids :
      (group.renamingRules rename).rules.map (·.id) =
        (group.rules.map (·.id)).map rename := by
    unfold renamingRules
    rw [List.map_map, List.map_map]
    rfl
  have repeats :
      Text.firstRepeated? [] ((group.rules.map (·.id)).map rename) =
        (Text.firstRepeated? [] (group.rules.map (·.id))).map rename := by
    have apart :
        Set.InjOn rename {id | id ∈ [] ∨ id ∈ group.rules.map (·.id)} := by
      refine injective.mono ?_
      rintro id (member | member)
      · contradiction
      · exact List.mem_map.mp member
    exact Text.firstRepeated?_map apart
  unfold complete
  rw [ids, repeats]
  cases found : Text.firstRepeated? [] (group.rules.map (·.id)) with
  | none =>
      exact .valid ⟨rename, renumbers, rfl⟩
  | some id =>
      obtain ⟨rule, member, rfl⟩ :=
        List.mem_map.mp (Text.mem_of_firstRepeated?_eq_some found)
      refine .invalid (.cons ?_ .nil)
      rcases renumbers rule member with same | handedOut
      · rw [same]
        exact .same _
      · exact .repeated _ handedOut _

/--
A group is readable with both supplies or with none; what is read with the second one
is the renumbered group.
-/
theorem related_read
    {document : Value}
    (alike : supply.RepeatsLike other (idsTaken document))
    (clashFree : ClashFree supply document)
    (otherClashFree : ClashFree other document) :
    Checked.Related (Rule.HandedOut supply other (idsTaken document))
      (Renumbered supply other (idsTaken document))
      (read supply document) (read other document) := by
  cases document with
  | scalar value =>
      exact .invalid (Complaint.alike_refl _)
  | list items =>
      exact .invalid (Complaint.alike_refl _)
  | map entries =>
      let rename :=
        Rule.renumber supply other (idsTaken (.map entries))
      have own : ∀ id ∈ ownRuleIds (.map entries), rename id = id :=
        fun id owns => Rule.renumber_of_avoid clashFree owns
      have rules :=
        rules_renamed own fun turn below => Rule.renumber_handedOut alike below
      rw [read_eq_assemble, read_eq_assemble, rules]
      cases rulesRead :
          Schema.withDefault entries "rules" [] (Rule.readList supply) with
      | invalid complaints =>
          exact .refl (Renumbered.refl supply other _) _
      | valid found =>
          rw [Checked.map_valid, assemble_valid entries found,
            assemble_valid entries (found.map (Rule.renamed rename))]
          cases assemble entries (.valid []) with
          | invalid complaints =>
              exact .invalid (Complaint.alike_refl complaints)
          | valid group =>
              have injective :
                  Set.InjOn rename {id | ∃ rule ∈ found, rule.id = id} := by
                refine (Rule.renumber_injOn alike clashFree otherClashFree).mono ?_
                rintro _ ⟨rule, member, rfl⟩
                exact ruleId_of_read rulesRead member
              have renumbers :
                  ∀ rule ∈ ({ group with rules := found } : Group).rules,
                    Rule.Renumbers supply other (idsTaken (.map entries))
                      rename rule.id :=
                fun rule _ => Rule.renumbers_renumber _ _ _ rule.id
              exact complete_renamed renumbers injective

/-- What is handed out to a group is handed out to the list it stands in. -/
theorem Renumbered.within
    {first taken total : Nat}
    {group otherGroup : Group}
    (renumbered :
      Renumbered (supply.after first) (other.after first) taken group otherGroup)
    (below : first + taken ≤ total) :
    Renumbered supply other total group otherGroup := by
  obtain ⟨rename, renumbers, shape⟩ := renumbered
  refine ⟨rename, fun rule member => ?_, shape⟩
  exact (renumbers rule member).imp_right fun handedOut => handedOut.within below

/-- Groups of a list are read one after the other as the renumbered ones. -/
theorem related_readFrom
    {documents : List Value}
    {first total : Nat}
    (alike : supply.RepeatsLike other total)
    (clashFree : AreClashFree (supply.after first) documents)
    (otherClashFree : AreClashFree (other.after first) documents)
    (within : first + documents.foldr (idsTaken · + ·) 0 ≤ total)
    (position : Nat) :
    List.Forall₂
      (Checked.Related (Rule.HandedOut supply other total)
        (Renumbered supply other total))
      (readFrom (supply.after first) position documents)
      (readFrom (other.after first) position documents) := by
  induction documents generalizing first position with
  | nil =>
      exact .nil
  | cons document rest inductionHypothesis =>
      obtain ⟨freeHere, freeLater⟩ := clashFree
      obtain ⟨otherFreeHere, otherFreeLater⟩ := otherClashFree
      rw [IdSupply.after_after] at freeLater otherFreeLater
      rw [List.foldr_cons] at within
      have below : first + idsTaken document ≤ total := by
        omega
      have here :=
        (related_read (alike.after below) freeHere otherFreeHere).imp
          (fun handedOut => Rule.HandedOut.within handedOut below)
          fun renumbered => Renumbered.within renumbered below
      have later :=
        inductionHypothesis freeLater otherFreeLater (by omega) (position + 1)
      rw [readFrom, readFrom, IdSupply.after_after, IdSupply.after_after]
      exact .cons (here.under (.item position)) later

end Reading

end Group

namespace GroupSet

/--
The identifiers that are handed out in a group set clash in no group with identifiers
that the rules of the group have.
-/
def ClashFree (supply : IdSupply) : Value → Prop
  | .map entries =>
      match Entries.find? entries (.text "groups") with
      | some (.list groups) =>
          Group.AreClashFree supply groups
      | _ =>
          True
  | _ =>
      True

/--
A group set is readable with both supplies or with none, and what is read or complained
about differs in identifiers that were handed out.
-/
theorem related_read
    {supply other : IdSupply}
    {document : Value}
    (alike : supply.RepeatsLike other (idsTaken document))
    (clashFree : ClashFree supply document)
    (otherClashFree : ClashFree other document) :
    Checked.Related (Rule.HandedOut supply other (idsTaken document))
      (fun groupSet otherSet =>
        List.Forall₂ (Group.Renumbered supply other (idsTaken document))
          groupSet.groups otherSet.groups)
      (read supply document) (read other document) := by
  cases document with
  | scalar value =>
      exact .invalid (Complaint.alike_refl _)
  | list items =>
      exact .invalid (Complaint.alike_refl _)
  | map entries =>
      have groups :
          Checked.Related
            (Rule.HandedOut supply other (idsTaken (.map entries)))
            (List.Forall₂
              (Group.Renumbered supply other (idsTaken (.map entries))))
            (Schema.withDefault entries "groups" [] (Group.readList supply))
            (Schema.withDefault entries "groups" [] (Group.readList other)) := by
        unfold Schema.withDefault
        cases found : Entries.find? entries (.text "groups") with
        | none =>
            exact .valid .nil
        | some written =>
            cases written with
            | list documents =>
                simp only [ClashFree, found] at clashFree otherClashFree
                -- The turns of the list start with the first one.
                rw [← supply.after_zero] at clashFree
                rw [← other.after_zero] at otherClashFree
                have within :
                    0 + documents.foldr (Group.idsTaken · + ·) 0 ≤
                      idsTaken (.map entries) := by
                  simp [idsTaken, found]
                have each :=
                  Group.related_readFrom alike clashFree otherClashFree within 0
                rw [supply.after_zero, other.after_zero] at each
                exact (Checked.Related.sequence each).under _
            | scalar value =>
                exact .invalid (Complaint.alike_refl _)
            | map written =>
                exact .invalid (Complaint.alike_refl _)
      have version :
          Checked.Related
            (Rule.HandedOut supply other (idsTaken (.map entries)))
            (fun _ _ => True)
            (Schema.withDefault entries "version" "" Schema.text)
            (Schema.withDefault entries "version" "" Schema.text) :=
        .refl (fun _ => trivial) _
      exact .both (fun groups _ => groups) groups version

end GroupSet

end FleetConfig
