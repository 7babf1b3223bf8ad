import ClusterRegistry.Proofs.Json.Sorted

/-!
# Values that come from a text

What a text says as a value has its members in order and holds no embedded text, since a text that
was embedded has been read (`Json.Parsed`). The same is true of what any value stands for.

The other way round: if the text that says a value can be read at all, it can be read as it is
written (`Json.within_of_read`), and if the value is parsed, it stands for itself
(`Json.Parsed.literal_of_read`).
-/

namespace ClusterRegistry

namespace Table

variable {κ : Type} [Ord κ] [Std.TransOrd κ] {α : Type}

/-- The entries of the table of a list are in the list. -/
theorem mem_of_mem_ofList {l : List (κ × α)} {e : κ × α} (h : e ∈ (ofList l).entries) : e ∈ l := by
  have hgeneral : ∀ (l : List (κ × α)) (t : Table κ α),
      e ∈ (l.foldl (fun t e => t.insert e.1 e.2) t).entries → e ∈ t.entries ∨ e ∈ l := by
    intro l
    induction l with
    | nil => exact fun _ h => .inl h
    | cons first rest ih =>
      intro t h
      rcases ih _ h with hin | hin
      · rcases mem_put hin with rfl | hin
        · exact .inr List.mem_cons_self
        · exact .inl hin
      · exact .inr (List.mem_cons_of_mem _ hin)
  exact (hgeneral l empty h).resolve_left List.not_mem_nil

/-- Every key of a list leads to something in its table. -/
theorem get?_ofList_isSome [Std.LawfulEqOrd κ] {l : List (κ × α)} {k : κ} (h : k ∈ l.map (·.1)) :
    ((ofList l).get? k).isSome = true := by
  have hgeneral : ∀ (l : List (κ × α)) (t : Table κ α), k ∈ l.map (·.1) ∨ (t.get? k).isSome = true →
      ((l.foldl (fun t e => t.insert e.1 e.2) t).get? k).isSome = true := by
    intro l
    induction l with
    | nil => exact fun _ h => h.resolve_left List.not_mem_nil
    | cons first rest ih =>
      intro t h
      refine ih _ ?_
      rw [get?_insert]
      rcases h with h | h
      · rcases List.mem_cons.mp h with rfl | h
        · exact .inr (by rw [if_pos Std.compare_self]; rfl)
        · exact .inl h
      · refine .inr ?_
        split
        · rfl
        · exact h
  exact hgeneral l empty (.inl h)

end Table

namespace Json

/-- A value in the form in which values come from texts. -/
structure Parsed (v : Json) : Prop where
  ordered : v.Ordered
  unembedded : v.Unembedded

theorem Parsed.array {items : List Json} (h : ∀ v ∈ items, v.Parsed) : (Json.array items).Parsed :=
  ⟨.array fun v hv => (h v hv).ordered, .array fun v hv => (h v hv).unembedded⟩

theorem Parsed.of_mem_array {items : List Json} (h : (Json.array items).Parsed) :
    ∀ v ∈ items, v.Parsed := fun v hv =>
  ⟨ordered_array_iff.mp h.ordered v hv, unembedded_array_iff.mp h.unembedded v hv⟩

theorem Parsed.of_mem_object {members : List (String × Json)} (h : (Json.object members).Parsed) :
    ∀ m ∈ members, m.2.Parsed := fun m hm =>
  ⟨(ordered_object_iff.mp h.ordered).2 m hm, (unembedded_object_iff.mp h.unembedded).2 m hm⟩

/-- A parsed value stands for itself if and only if no object in it starts with the key for embedded
texts. -/
theorem Parsed.literal_iff {v : Json} (h : v.Parsed) : v.Literal ↔ v.Plain :=
  ⟨fun hliteral => plain_of_settle h.unembedded hliteral.settled,
    fun hplain => ⟨h.ordered, settle_of_plain h.ordered hplain⟩⟩

/-- Members are put in order, and if the first of them does not embed a text, no text is
embedded. -/
theorem Parsed.ofMembers {m : String × Json} {rest : List (String × Json)}
    (hkey : m.1 ≠ embeddedKey) (h : ∀ n ∈ m :: rest, n.2.Parsed) :
    (Json.object (Table.ofList (m :: rest)).entries).Parsed := by
  have hvalues : ∀ n ∈ (Table.ofList (m :: rest)).entries, n.2.Parsed :=
    fun n hn => h n (Table.mem_of_mem_ofList hn)
  refine ⟨.object (Table.ascending _) fun n hn => (hvalues n hn).ordered,
    .object (fun s halone => hkey ?_) fun n hn => (hvalues n hn).unembedded⟩
  have hsome : ((Table.ofList (m :: rest)).get? m.1).isSome = true :=
    Table.get?_ofList_isSome List.mem_cons_self
  obtain ⟨v, hv⟩ := Option.isSome_iff_exists.mp hsome
  have hmem := (Table.mem_entries_iff _).mpr hv
  rw [halone] at hmem
  exact congrArg Prod.fst (List.mem_singleton.mp hmem)

theorem parsed_empty : (Json.object []).Parsed :=
  ⟨.object .nil (List.forall_mem_nil _),
    .object (fun _ => (List.cons_ne_nil _ _).symm) (List.forall_mem_nil _)⟩

/-! ## What is read -/

section

variable {embedded : String → Except Fault Json}

/-- An array that is read has its items read, one level further down. -/
theorem exists_of_read_array {r : Reading} {depth : Nat} {items : List Document}
    {stop : Option Break} {v : Json} (h : (Document.array items stop).read r depth = .ok v) :
    ∃ inner vs, depth = inner + 2 ∧ Document.readItems r (inner + 1) items = .ok vs ∧
      Document.stopReading stop = .ok () ∧ v = .array vs := by
  match depth with
  | 0 | 1 => cases h
  | inner + 2 =>
    obtain ⟨vs, hvs, h⟩ := exists_of_bind_eq_ok h
    obtain ⟨_, hstop, h⟩ := exists_of_bind_eq_ok h
    cases h
    exact ⟨inner, vs, rfl, hvs, hstop, rfl⟩

/-- An object is read as a value in one of two ways, by its first key: as the text that is embedded
in it, or member by member, one level further down. -/
theorem exists_of_read_object {depth : Nat} {members : List (Except Fault String × Document)}
    {stop : Option Break} {v : Json}
    (h : (Document.object members stop).read (.value embedded) depth = .ok v) :
    ∃ inner, depth = inner + 2 ∧
      ((∃ d left, members = (.ok embeddedKey, d) :: left ∧
          Document.readEmbedded embedded d left stop = .ok v) ∨
        (∀ d left, members ≠ (.ok embeddedKey, d) :: left) ∧
          ∃ ms, Document.readMembers (.value embedded) (inner + 1) members = .ok ms ∧
            Document.stopReading stop = .ok () ∧ v = .object (Table.ofList ms).entries) := by
  match depth with
  | 0 | 1 => cases h
  | inner + 2 =>
    refine ⟨inner, rfl, ?_⟩
    have hplain : ∀ {members : List (Except Fault String × Document)},
        (do let ms ← Document.readMembers (.value embedded) (inner + 1) members
            Document.stopReading stop
            return (Reading.value embedded).close ms : Except Fault Json) = .ok v →
        ∃ ms, Document.readMembers (.value embedded) (inner + 1) members = .ok ms ∧
          Document.stopReading stop = .ok () ∧ v = .object (Table.ofList ms).entries := by
      intro members h
      obtain ⟨ms, hms, h⟩ := exists_of_bind_eq_ok h
      obtain ⟨_, hstop, h⟩ := exists_of_bind_eq_ok h
      cases h
      exact ⟨ms, hms, hstop, rfl⟩
    match members with
    | [] => exact .inr ⟨nofun, hplain h⟩
    | (.error f, d) :: left => exact .inr ⟨nofun, hplain h⟩
    | (.ok key, d) :: left =>
      by_cases hkey : key = embeddedKey
      · subst hkey
        exact .inl ⟨d, left, rfl, h⟩
      · refine .inr ⟨fun _ _ he => hkey ?_, hplain ?_⟩
        · cases he
          rfl
        · have hnone : (Reading.value embedded).embedded? ((.ok key, d) :: left) = none :=
            if_neg hkey
          unfold Document.read at h
          rw [hnone] at h
          exact h

/-- An embedded text says what the text says. -/
theorem parsed_of_readEmbedded (hembedded : ∀ s v, embedded s = .ok v → v.Parsed) {d : Document}
    {left : List (Except Fault String × Document)} {stop : Option Break} {v : Json}
    (h : Document.readEmbedded embedded d left stop = .ok v) : v.Parsed := by
  cases d with
  | text s =>
    obtain ⟨t, -, h⟩ := exists_of_bind_eq_ok h
    obtain ⟨w, hw, h⟩ := exists_of_bind_eq_ok h
    obtain ⟨_, -, h⟩ := exists_of_bind_eq_ok h
    cases h
    exact hembedded _ _ hw
  | _ =>
    obtain ⟨_, -, h⟩ := exists_of_bind_eq_ok h
    cases h

mutual

/-- What is read as a value is parsed if what is embedded is. -/
theorem parsed_of_read (hembedded : ∀ s v, embedded s = .ok v → v.Parsed) {depth : Nat} :
    {d : Document} → {v : Json} → d.read (.value embedded) depth = .ok v → v.Parsed
  | .null, _, h => by
    cases h
    exact ⟨.null, .null⟩
  | .bool b, _, h => by
    cases h
    exact ⟨.bool b, .bool b⟩
  | .number n, _, h => by
    obtain ⟨x, -, rfl⟩ := exists_of_map_eq_ok h
    exact ⟨.number x, .number x⟩
  | .text s, _, h => by
    obtain ⟨x, -, rfl⟩ := exists_of_map_eq_ok h
    exact ⟨.text x, .text x⟩
  | .array items stop, v, h => by
    obtain ⟨inner, vs, -, hvs, -, rfl⟩ := exists_of_read_array h
    exact .array (parsed_of_readItems hembedded hvs)
  | .object members stop, v, h => by
    obtain ⟨inner, -, ⟨d, left, -, h⟩ | ⟨hkey, ms, hms, -, rfl⟩⟩ := exists_of_read_object h
    · exact parsed_of_readEmbedded hembedded h
    · have hparsed := parsed_of_readMembers hembedded hms
      cases members with
      | nil =>
        cases hms
        exact parsed_empty
      | cons first left =>
        obtain ⟨key, d⟩ := first
        obtain ⟨k, hk, hms⟩ := exists_of_bind_eq_ok hms
        obtain rfl : key = .ok k := hk
        obtain ⟨w, -, hms⟩ := exists_of_bind_eq_ok hms
        obtain ⟨others, -, hms⟩ := exists_of_bind_eq_ok hms
        cases hms
        refine .ofMembers (fun he => hkey d left ?_) hparsed
        rw [← he]
  | .broken b, _, h => by cases h

theorem parsed_of_readItems (hembedded : ∀ s v, embedded s = .ok v → v.Parsed) {depth : Nat} :
    {ds : List Document} → {vs : List Json} →
    Document.readItems (.value embedded) depth ds = .ok vs → ∀ v ∈ vs, v.Parsed
  | [], _, h => by
    cases h
    exact nofun
  | d :: rest, vs, h => by
    obtain ⟨v, hv, h⟩ := exists_of_bind_eq_ok h
    obtain ⟨others, hothers, h⟩ := exists_of_bind_eq_ok h
    cases h
    exact List.forall_mem_cons.mpr
      ⟨parsed_of_read hembedded hv, parsed_of_readItems hembedded hothers⟩

theorem parsed_of_readMembers (hembedded : ∀ s v, embedded s = .ok v → v.Parsed) {depth : Nat} :
    {ds : List (Except Fault String × Document)} → {ms : List (String × Json)} →
    Document.readMembers (.value embedded) depth ds = .ok ms → ∀ m ∈ ms, m.2.Parsed
  | [], _, h => by
    cases h
    exact nofun
  | d :: rest, ms, h => by
    obtain ⟨k, -, h⟩ := exists_of_bind_eq_ok h
    obtain ⟨v, hv, h⟩ := exists_of_bind_eq_ok h
    obtain ⟨others, hothers, h⟩ := exists_of_bind_eq_ok h
    cases h
    exact List.forall_mem_cons.mpr
      ⟨parsed_of_read hembedded hv, parsed_of_readMembers hembedded hothers⟩

end

end

/-- What an embedded text says is parsed, however many texts it embeds in turn. -/
theorem parsed_of_ofEmbedded {s : String} {v : Json} (h : ofEmbedded s = .ok v) : v.Parsed := by
  have hlevels : ∀ levels s v, readEmbedded levels s = .ok v → v.Parsed := by
    intro levels
    induction levels with
    | zero => nofun
    | succ levels ih =>
      intro s v h
      obtain ⟨w, hw, h⟩ := exists_of_bind_eq_ok h
      obtain ⟨_, -, h⟩ := exists_of_bind_eq_ok h
      cases h
      exact parsed_of_read ih hw
  exact hlevels _ s v h

/-- What a payload says is parsed. -/
theorem parsed_of_payload {p : Payload} {v : Json} (h : p.value = .ok v) : v.Parsed := by
  obtain ⟨w, hw, h⟩ := exists_of_bind_eq_ok h
  obtain ⟨_, -, h⟩ := exists_of_bind_eq_ok h
  cases h
  exact parsed_of_read (fun _ _ => parsed_of_ofEmbedded) hw

mutual

/-- What a value stands for is parsed. -/
theorem parsed_of_settle : {v w : Json} → v.settle = .ok w → w.Parsed
  | .null, _, h => by
    cases h
    exact ⟨.null, .null⟩
  | .bool b, _, h => by
    cases h
    exact ⟨.bool b, .bool b⟩
  | .number n, _, h => by
    cases h
    exact ⟨.number n, .number n⟩
  | .text s, _, h => by
    cases h
    exact ⟨.text s, .text s⟩
  | .array items, _, h => by
    obtain ⟨ws, hws, h⟩ := exists_of_bind_eq_ok h
    cases h
    exact .array (parsed_of_settleItems hws)
  | .object [], _, h => by
    cases h
    exact parsed_empty
  | .object (m :: rest), w, h => by
    rw [settle] at h
    split at h
    · split at h
      · next s hs =>
        obtain ⟨u, hu, h⟩ := exists_of_bind_eq_ok h
        split at h
        · cases h
          exact parsed_of_ofEmbedded hu
        · cases h
      · cases h
    · next hkey =>
      obtain ⟨ns, hns, h⟩ := exists_of_bind_eq_ok h
      cases h
      have hparsed := parsed_of_settleMembers hns
      obtain ⟨v, hv, hns⟩ := exists_of_bind_eq_ok hns
      obtain ⟨others, -, hns⟩ := exists_of_bind_eq_ok hns
      cases hns
      exact .ofMembers hkey hparsed

theorem parsed_of_settleItems : {vs ws : List Json} → settleItems vs = .ok ws →
    ∀ w ∈ ws, w.Parsed
  | [], _, h => by
    cases h
    exact nofun
  | v :: rest, ws, h => by
    obtain ⟨w, hw, h⟩ := exists_of_bind_eq_ok h
    obtain ⟨others, hothers, h⟩ := exists_of_bind_eq_ok h
    cases h
    exact List.forall_mem_cons.mpr ⟨parsed_of_settle hw, parsed_of_settleItems hothers⟩

theorem parsed_of_settleMembers : {ms ns : List (String × Json)} → settleMembers ms = .ok ns →
    ∀ n ∈ ns, n.2.Parsed
  | [], _, h => by
    cases h
    exact nofun
  | m :: rest, ns, h => by
    obtain ⟨w, hw, h⟩ := exists_of_bind_eq_ok h
    obtain ⟨others, hothers, h⟩ := exists_of_bind_eq_ok h
    cases h
    exact List.forall_mem_cons.mpr ⟨parsed_of_settle hw, parsed_of_settleMembers hothers⟩

end

/-- Settling members keeps their keys. -/
theorem keys_of_settleMembers {ms ns : List (String × Json)} (h : settleMembers ms = .ok ns) :
    ns.map (·.1) = ms.map (·.1) := by
  induction ms generalizing ns with
  | nil =>
    cases h
    rfl
  | cons m rest ih =>
    obtain ⟨w, -, h⟩ := exists_of_bind_eq_ok h
    obtain ⟨others, hothers, h⟩ := exists_of_bind_eq_ok h
    cases h
    exact congrArg (m.1 :: ·) (ih hothers)

/-- What members stand for stands for itself if they were parsed already, or if no object in it
starts with the key for embedded texts. -/
theorem literal_of_settleMembers {ms ns : List (String × Json)} (h : settleMembers ms = .ok ns)
    (hplain : (∀ m ∈ ms, m.2.Parsed) ∨ ∀ e ∈ (Table.ofList ns).entries, e.2.Plain) :
    ∀ e ∈ (Table.ofList ns).entries, e.2.Literal := by
  intro e he
  have hmem : e ∈ ns := Table.mem_of_mem_ofList he
  refine (parsed_of_settleMembers h e hmem).literal_iff.mpr ?_
  rcases hplain with hms | hplain
  · obtain rfl := eq_of_settleMembers (fun m hm => (hms m hm).ordered)
      (fun m hm => (hms m hm).unembedded) h
    exact plain_of_settleMembers (fun m hm => (hms m hm).unembedded) h e hmem
  · exact hplain e he

/-! ## Reading the text of a value -/

section

variable {embedded : String → Except Fault Json}

/-- The text that says a value can be read as it is written, with a number of levels allowed. -/
def Within (v : Json) (depth : Nat) : Prop :=
  (Document.ofJson v).read .written depth = .ok v

theorem readItems_written_iff {items : List Json} {depth : Nat} :
    Document.readItems .written depth (Document.ofItems items) = .ok items ↔
      ∀ v ∈ items, v.Within depth := by
  induction items with
  | nil => exact ⟨fun _ => nofun, fun _ => rfl⟩
  | cons v rest ih =>
    rw [List.forall_mem_cons, ← ih]
    show (do let v ← (Document.ofJson v).read .written depth
             let vs ← Document.readItems .written depth (Document.ofItems rest)
             return v :: vs : Except Fault (List Json)) = _ ↔ _
    constructor
    · intro h
      obtain ⟨w, hw, h⟩ := exists_of_bind_eq_ok h
      obtain ⟨others, hothers, h⟩ := exists_of_bind_eq_ok h
      cases h
      exact ⟨hw, hothers⟩
    · rintro ⟨hv, hrest⟩
      rw [hv, hrest]
      rfl

theorem readMembers_written_iff {members : List (String × Json)} {depth : Nat} :
    Document.readMembers .written depth (Document.ofMembers members) = .ok members ↔
      ∀ m ∈ members, m.2.Within depth := by
  induction members with
  | nil => exact ⟨fun _ => nofun, fun _ => rfl⟩
  | cons m rest ih =>
    rw [List.forall_mem_cons, ← ih]
    show (do let v ← (Document.ofJson m.2).read .written depth
             let ms ← Document.readMembers .written depth (Document.ofMembers rest)
             return (m.1, v) :: ms : Except Fault (List (String × Json))) = _ ↔ _
    constructor
    · intro h
      obtain ⟨w, hw, h⟩ := exists_of_bind_eq_ok h
      obtain ⟨others, hothers, h⟩ := exists_of_bind_eq_ok h
      obtain ⟨hm, rfl⟩ := List.cons.inj (Except.ok.inj h)
      obtain rfl : w = m.2 := congrArg Prod.snd hm
      exact ⟨hw, hothers⟩
    · rintro ⟨hm, hrest⟩
      rw [hm, hrest]
      rfl

/-- An array takes up one level. -/
theorem array_within_iff {items : List Json} {depth : Nat} :
    (Json.array items).Within depth ↔
      ∃ inner, depth = inner + 2 ∧ ∀ v ∈ items, v.Within (inner + 1) := by
  constructor
  · intro h
    obtain ⟨inner, vs, rfl, hvs, -, he⟩ := exists_of_read_array h
    cases he
    exact ⟨inner, rfl, readItems_written_iff.mp hvs⟩
  · rintro ⟨inner, rfl, h⟩
    show (do let vs ← Document.readItems .written (inner + 1) (Document.ofItems items)
             Document.stopReading none
             return .array vs : Except Fault Json) = _
    rw [readItems_written_iff.mpr h]
    rfl

/-- An object takes up one level. -/
theorem object_within_iff {members : List (String × Json)} {depth : Nat} :
    (Json.object members).Within depth ↔
      ∃ inner, depth = inner + 2 ∧ ∀ m ∈ members, m.2.Within (inner + 1) := by
  constructor
  · intro h
    match depth with
    | 0 | 1 => cases h
    | inner + 2 =>
      obtain ⟨ms, hms, h⟩ := exists_of_bind_eq_ok h
      cases h
      exact ⟨inner, rfl, readMembers_written_iff.mp hms⟩
  · rintro ⟨inner, rfl, h⟩
    show (do let ms ← Document.readMembers .written (inner + 1) (Document.ofMembers members)
             Document.stopReading none
             return .object ms : Except Fault Json) = _
    rw [readMembers_written_iff.mpr h]
    rfl

/-- If the text that says some members is read, so is the text of each of them. -/
theorem exists_read_of_readMembers {r : Reading} {depth : Nat} {ms ns : List (String × Json)}
    (h : Document.readMembers r depth (Document.ofMembers ms) = .ok ns) :
    ∀ m ∈ ms, ∃ w, (Document.ofJson m.2).read r depth = .ok w := by
  induction ms generalizing ns with
  | nil => exact nofun
  | cons m rest ih =>
    obtain ⟨_, -, h⟩ := exists_of_bind_eq_ok h
    obtain ⟨w, hw, h⟩ := exists_of_bind_eq_ok h
    obtain ⟨others, hothers, -⟩ := exists_of_bind_eq_ok h
    exact List.forall_mem_cons.mpr ⟨⟨w, hw⟩, ih hothers⟩

/-- A text is embedded only where a text stands alone. -/
theorem exists_of_readEmbedded_ofJson {v w : Json} {rest : List (String × Json)}
    (h : Document.readEmbedded embedded (.ofJson v) (Document.ofMembers rest) none = .ok w) :
    (∃ s, v = .text s) ∧ rest = [] := by
  cases v with
  | text s =>
    refine ⟨⟨s, rfl⟩, ?_⟩
    cases rest with
    | nil => rfl
    | cons _ _ =>
      obtain ⟨_, -, h⟩ := exists_of_bind_eq_ok h
      obtain ⟨_, -, h⟩ := exists_of_bind_eq_ok h
      cases h
  | _ =>
    obtain ⟨_, -, h⟩ := exists_of_bind_eq_ok h
    cases h

mutual

/-- If the text that says a value is read as some value, it can be read as it is written. -/
theorem within_of_read : {v w : Json} → {depth : Nat} →
    (Document.ofJson v).read (.value embedded) depth = .ok w → v.Within depth
  | .null, _, _, _ | .bool _, _, _, _ | .number _, _, _, _ | .text _, _, _, _ => rfl
  | .array items, _, _, h => by
    obtain ⟨inner, vs, rfl, hvs, -, rfl⟩ := exists_of_read_array h
    exact array_within_iff.mpr ⟨inner, rfl, within_of_readItems hvs⟩
  | .object [], _, _, h => by
    obtain ⟨inner, rfl, -⟩ := exists_of_read_object h
    exact object_within_iff.mpr ⟨inner, rfl, nofun⟩
  | .object (m :: rest), _, _, h => by
    obtain ⟨inner, rfl, ⟨d, left, hmembers, h⟩ | ⟨-, ms, hms, -, -⟩⟩ := exists_of_read_object h
    · obtain ⟨key, v⟩ := m
      obtain ⟨hfirst, rfl⟩ := List.cons.inj hmembers
      obtain ⟨-, rfl⟩ := Prod.mk.inj hfirst
      obtain ⟨⟨s, rfl⟩, rfl⟩ := exists_of_readEmbedded_ofJson h
      rfl
    · exact object_within_iff.mpr ⟨inner, rfl, within_of_readMembers hms⟩

theorem within_of_readItems : {vs ws : List Json} → {depth : Nat} →
    Document.readItems (.value embedded) depth (Document.ofItems vs) = .ok ws →
    ∀ v ∈ vs, v.Within depth
  | [], _, _, _ => nofun
  | v :: rest, _, depth, h => by
    obtain ⟨w, hw, h⟩ := exists_of_bind_eq_ok h
    obtain ⟨others, hothers, -⟩ := exists_of_bind_eq_ok h
    exact List.forall_mem_cons.mpr ⟨within_of_read hw, within_of_readItems hothers⟩

theorem within_of_readMembers : {ms ns : List (String × Json)} → {depth : Nat} →
    Document.readMembers (.value embedded) depth (Document.ofMembers ms) = .ok ns →
    ∀ m ∈ ms, m.2.Within depth
  | [], _, _, _ => nofun
  | m :: rest, _, depth, h => by
    obtain ⟨_, -, h⟩ := exists_of_bind_eq_ok h
    obtain ⟨w, hw, h⟩ := exists_of_bind_eq_ok h
    obtain ⟨others, hothers, -⟩ := exists_of_bind_eq_ok h
    exact List.forall_mem_cons.mpr ⟨within_of_read hw, within_of_readMembers hothers⟩

end

mutual

/-- If none of its objects consists of an embedded text, the text that says a value is read only if
none of them starts with the key for embedded texts. -/
theorem plain_of_read : {v w : Json} → {depth : Nat} → v.Unembedded →
    (Document.ofJson v).read (.value embedded) depth = .ok w → v.Plain
  | .null, _, _, _, _ => .null
  | .bool b, _, _, _, _ => .bool b
  | .number n, _, _, _, _ => .number n
  | .text s, _, _, _, _ => .text s
  | .array items, _, _, .array hunembedded, h => by
    obtain ⟨inner, vs, -, hvs, -, -⟩ := exists_of_read_array h
    exact .array (plain_of_readItems hunembedded hvs)
  | .object [], _, _, _, _ => .object nofun nofun
  | .object (m :: rest), _, _, .object halone hunembedded, h => by
    obtain ⟨inner, rfl, ⟨d, left, hmembers, h⟩ | ⟨hplain, ms, hms, -, -⟩⟩ :=
      exists_of_read_object h
    · -- an embedded text would stand alone
      obtain ⟨key, v⟩ := m
      obtain ⟨hfirst, rfl⟩ := List.cons.inj hmembers
      obtain ⟨hkey, rfl⟩ := Prod.mk.inj hfirst
      obtain ⟨⟨s, rfl⟩, rfl⟩ := exists_of_readEmbedded_ofJson h
      cases hkey
      exact absurd rfl (halone s)
    · refine .object (fun n hn he => ?_) (plain_of_readMembers hunembedded hms)
      cases hn
      exact hplain _ _ (by rw [← he]; rfl)

theorem plain_of_readItems : {vs ws : List Json} → {depth : Nat} → (∀ v ∈ vs, v.Unembedded) →
    Document.readItems (.value embedded) depth (Document.ofItems vs) = .ok ws →
    ∀ v ∈ vs, v.Plain
  | [], _, _, _, _ => nofun
  | v :: rest, _, _, hunembedded, h => by
    obtain ⟨hvunembedded, hunembedded⟩ := List.forall_mem_cons.mp hunembedded
    obtain ⟨w, hw, h⟩ := exists_of_bind_eq_ok h
    obtain ⟨others, hothers, -⟩ := exists_of_bind_eq_ok h
    exact List.forall_mem_cons.mpr
      ⟨plain_of_read hvunembedded hw, plain_of_readItems hunembedded hothers⟩

theorem plain_of_readMembers : {ms ns : List (String × Json)} → {depth : Nat} →
    (∀ m ∈ ms, m.2.Unembedded) →
    Document.readMembers (.value embedded) depth (Document.ofMembers ms) = .ok ns →
    ∀ m ∈ ms, m.2.Plain
  | [], _, _, _, _ => nofun
  | m :: rest, _, _, hunembedded, h => by
    obtain ⟨hmunembedded, hunembedded⟩ := List.forall_mem_cons.mp hunembedded
    obtain ⟨_, -, h⟩ := exists_of_bind_eq_ok h
    obtain ⟨w, hw, h⟩ := exists_of_bind_eq_ok h
    obtain ⟨others, hothers, -⟩ := exists_of_bind_eq_ok h
    exact List.forall_mem_cons.mpr
      ⟨plain_of_read hmunembedded hw, plain_of_readMembers hunembedded hothers⟩

end

/-- If the text that says a parsed value is read as some value, the value stands for itself. -/
theorem Parsed.literal_of_read {v w : Json} {depth : Nat} (hv : v.Parsed)
    (h : (Document.ofJson v).read (.value embedded) depth = .ok w) : v.Literal :=
  hv.literal_iff.mpr (plain_of_read hv.unembedded h)

end

end Json

end ClusterRegistry
