import PbrTelemetry.Proofs.Decode.Regular
import PbrTelemetry.Proofs.Decode.Scalars

/-!
# How updates are arranged

What a notification comes to is settled by its prefix, by whether it has updates at all, and by
three things that its updates make together: whether a payload is malformed, the map of all leaves,
and the path of the names (`flatten_congr`).  Many arrangements of updates make the same: with or
without updates that do not count, scalars in any order, and an object as a whole or divided into
its members (`flatten_unaffected`).

The last one needs that members have no key in common.  Within a member two leaves may well have one
key, and of these the later one counts, so the leaves of a member have to stay together.
-/

namespace PbrTelemetry

/-! ## The members of an object -/

namespace Json

theorem memberPointers_eq_flatMap (members : List (String × Json)) :
    memberPointers members = members.flatMap fun m => pointers (object [m]) := by
  induction members with
  | nil => rfl
  | cons m rest ih =>
    obtain ⟨name, value⟩ := m
    rw [memberPointers, ih, List.flatMap_cons, pointers_object (List.cons_ne_nil _ _)]
    simp [memberPointers]

/-- The leaves of an object are those of its members, one member after the other. -/
theorem leafEntries_object {members : List (String × Json)} (filled : members ≠ []) :
    (object members).leafEntries = members.flatMap fun m => (object [m]).leafEntries := by
  rw [leafEntries, pointers_object filled, memberPointers_eq_flatMap, List.map_flatMap]
  rfl

theorem leafEntries_apart {first second : String × Json} (apart : first.1 ≠ second.1) :
    ∀ entry ∈ (object [first]).leafEntries, ∀ other ∈ (object [second]).leafEntries,
      entry.1 ≠ other.1 := by
  have below : ∀ (m : String × Json), ∀ p ∈ pointers (object [m]),
      ∃ way, p.1 = .member m.1 :: way := by
    intro m p inside
    rw [pointers_object (List.cons_ne_nil _ _), mem_memberPointers] at inside
    obtain ⟨found, member, q, -, rfl⟩ := inside
    cases List.mem_singleton.mp member
    exact ⟨q.1, rfl⟩
  intro entry inFirst other inSecond same
  obtain ⟨p, inside, rfl⟩ := List.mem_map.mp inFirst
  obtain ⟨q, inside', rfl⟩ := List.mem_map.mp inSecond
  obtain ⟨way, atFirst⟩ := below first p inside
  obtain ⟨way', atSecond⟩ := below second q inside'
  have tokens := keyTokens_eq_of_pointerKey_eq (String.ofList_injective same)
  rw [atFirst, atSecond, keyTokens_member, keyTokens_member] at tokens
  exact apart (PointerToken.text_member_inj (List.cons.inj tokens).1)

end Json

/-! ## Updates -/

namespace Update

variable {update : Update} {path : Path} {members : List (String × Json)}

theorem IsMalformed.isComplete (malformed : update.IsMalformed) : update.isComplete = true := by
  obtain ⟨path, payload, atPath, has, -⟩ := malformed
  rw [Update.isComplete, atPath, has]
  rfl

/-- A scalar stands under the text of its path. -/
theorem key_of_scalar (complete : update.isComplete = true) (scalar : update.valueKind = .scalar) :
    ∀ entry ∈ LeafValue.entries update.decodedLeaves,
      update.path.map Path.render = some entry.1 := by
  obtain ⟨path, value, atPath, has⟩ := exists_of_isComplete complete
  rw [decodedLeaves_of_scalar atPath has scalar, atPath]
  intro entry member
  cases List.mem_singleton.mp member
  rfl

/-- The payload of the update is an object with these members. -/
def HasObject (update : Update) (path : Path) (members : List (String × Json)) : Prop :=
  ∃ payload, update.path = some path ∧ update.val = some (.jsonIetf payload) ∧
    Json.parseBytes? payload = some (.object members)

namespace HasObject

theorem sound (has : update.HasObject path members) : ¬ update.IsMalformed := by
  obtain ⟨payload, -, value, parsed⟩ := has
  rintro ⟨_, _, -, same, unreadable⟩
  cases value.symm.trans same
  cases parsed.symm.trans unreadable

theorem isComplete (has : update.HasObject path members) : update.isComplete = true := by
  obtain ⟨payload, atPath, value, -⟩ := has
  rw [Update.isComplete, atPath, value]
  rfl

theorem jsonPath? (has : update.HasObject path members) : update.jsonPath? = some path := by
  obtain ⟨payload, atPath, value, -⟩ := has
  rw [Update.jsonPath?, atPath, value]

theorem entries (has : update.HasObject path members) (filled : members ≠ []) :
    LeafValue.entries update.decodedLeaves
      = (members.map fun m => (Json.object [m]).leafEntries).flatten := by
  obtain ⟨payload, atPath, value, parsed⟩ := has
  rw [decodedLeaves, atPath, value]
  dsimp only
  rw [parsed]
  dsimp only
  rw [LeafValue.entries_pointers, Json.leafEntries_object filled, List.flatMap_def]

theorem names_apart (has : update.HasObject path members) :
    members.Pairwise fun first second => first.1 ≠ second.1 := by
  obtain ⟨payload, -, -, parsed⟩ := has
  have ascending : Ascending members := (Json.canonical_of_parseBytes? parsed).1
  refine ascending.imp ?_
  intro first second less same
  rw [same] at less
  exact String.lt_irrefl _ less

end HasObject

/-- The pieces are non-empty objects under the path, which share these members out among them. -/
def SharesOut (pieces : List Update) (path : Path) (members : List (String × Json)) : Prop :=
  ∃ parts, List.Forall₂ (fun piece part => piece.HasObject path part ∧ part ≠ []) pieces parts ∧
    parts.flatten.Perm members

namespace SharesOut

variable {pieces : List Update}

theorem hasObject (shared : SharesOut pieces path members) :
    ∀ piece ∈ pieces, ∃ part, piece.HasObject path part := by
  obtain ⟨parts, each, -⟩ := shared
  induction each with
  | nil => exact List.forall_mem_nil _
  | cons here _ ih => exact List.forall_mem_cons.mpr ⟨⟨_, here.1⟩, ih⟩

theorem ne_nil (shared : SharesOut pieces path members) (filled : members ≠ []) : pieces ≠ [] := by
  obtain ⟨parts, each, perm⟩ := shared
  rintro rfl
  cases each
  exact filled perm.nil_eq.symm

theorem last (shared : SharesOut pieces path members) (filled : members ≠ []) :
    ((pieces.filter Update.isComplete).map Update.jsonPath?).getLast? = some (some path) := by
  have complete : pieces.filter Update.isComplete = pieces := by
    rw [List.filter_eq_self]
    intro piece member
    obtain ⟨part, has⟩ := shared.hasObject piece member
    exact has.isComplete
  have present := shared.ne_nil filled
  obtain ⟨part, has⟩ := shared.hasObject _ (List.getLast_mem present)
  rw [complete, List.getLast?_map, List.getLast?_eq_some_getLast present, Option.map_some,
    has.jsonPath?]

/-- The leaves of the pieces are the leaves of the members, one member after the other. -/
theorem entries (shared : SharesOut pieces path members) :
    ∃ others : List (String × Json), others.Perm members ∧
      LeafValue.entries (pieces.flatMap decodedLeaves)
        = (others.map fun m => (Json.object [m]).leafEntries).flatten := by
  obtain ⟨parts, each, perm⟩ := shared
  refine ⟨parts.flatten, perm, ?_⟩
  clear perm
  induction each with
  | nil => rfl
  | cons here _ ih =>
    rw [List.flatMap_cons, LeafValue.entries_append, here.1.entries here.2, ih, List.flatten_cons,
      List.map_append, List.flatten_append]

/-- Whatever was there before, the object and its pieces come to the same map. -/
theorem insertAll_eq {update : Update} (shared : SharesOut pieces path members)
    (has : update.HasObject path members) (filled : members ≠ []) (map : FlatMap) :
    map.insertAll (LeafValue.entries (pieces.flatMap decodedLeaves))
      = map.insertAll (LeafValue.entries update.decodedLeaves) := by
  obtain ⟨others, perm, leaves⟩ := shared.entries
  rw [leaves, has.entries filled]
  refine (TextMap.insertAll_flatten_perm (perm.symm.map _) ?_ map).symm
  rw [List.pairwise_map]
  exact has.names_apart.imp Json.leafEntries_apart

end SharesOut

end Update

/-! ## What a notification comes to -/

namespace Notification

variable {notification other : Notification} {origin : String} {updates : List Update}

theorem flatten_congr (prefixed : notification.prefixPath = other.prefixPath)
    (updated : notification.update = [] ↔ other.update = [])
    (malformed : notification.IsMalformed ↔ other.IsMalformed)
    (leaves : notification.leafMap = other.leafMap)
    (path : notification.namingPath = other.namingPath) (origin : String) :
    notification.flatten origin = other.flatten origin := by
  by_cases own : notification.IsOwn origin
  · have own' : other.IsOwn origin := by rwa [IsOwn, ← prefixed]
    by_cases bad : notification.IsMalformed
    · rw [flatten_of_isMalformed own bad, flatten_of_isMalformed own' (malformed.mp bad)]
    · by_cases empty : notification.update = []
      · rw [flatten_of_no_update own empty, flatten_of_no_update own' (updated.mp empty)]
      · have readable : other.IsReadable := ⟨mt updated.mpr empty, mt malformed.mpr bad⟩
        rw [flatten_of_isReadable own ⟨empty, bad⟩, flatten_of_isReadable own' readable, path,
          leaves]
  · have own' : ¬ other.IsOwn origin := by rwa [IsOwn, ← prefixed]
    by_cases present : notification.IsPrefixed
    · have present' : other.IsPrefixed := by rwa [IsPrefixed, ← prefixed]
      obtain ⟨words, outcome, exactly⟩ := exists_flatten_of_foreign present own
      obtain ⟨words', outcome', exactly'⟩ := exists_flatten_of_foreign present' own'
      have foreign : other.IsForeign origin words := by
        rw [IsForeign, ← prefixed]
        exact (exactly words).mpr rfl
      rw [outcome, outcome', (exactly' words).mp foreign]
    · have present' : ¬ other.IsPrefixed := by rwa [IsPrefixed, ← prefixed]
      rw [flatten_of_not_isPrefixed present, flatten_of_not_isPrefixed present']

theorem isMalformed_iff : notification.IsMalformed ↔
    ∃ update ∈ notification.update.filter Update.isComplete, update.IsMalformed := by
  constructor
  · rintro ⟨update, member, malformed⟩
    exact ⟨update, List.mem_filter.mpr ⟨member, malformed.isComplete⟩, malformed⟩
  · rintro ⟨update, member, malformed⟩
    exact ⟨update, List.mem_of_mem_filter member, malformed⟩

theorem decodedLeaves_eq_filter (notification : Notification) : notification.decodedLeaves
    = (notification.update.filter Update.isComplete).flatMap Update.decodedLeaves := by
  rw [decodedLeaves]
  induction notification.update with
  | nil => rfl
  | cons update rest ih =>
    cases complete : update.isComplete with
    | false => simp [complete, Update.decodedLeaves_of_not_isComplete complete, ih]
    | true => simp [complete, ih]

theorem leafMap_eq_insertAll (notification : Notification) : notification.leafMap
    = TextMap.empty.insertAll ((notification.update.filter Update.isComplete).map
        fun update => LeafValue.entries update.decodedLeaves).flatten := by
  rw [leafMap, decodedLeaves_eq_filter, LeafValue.entries, List.map_flatMap, List.flatMap_def]
  rfl

/-- Where all values are scalars, the names stand on the prefix. -/
theorem namingPath_of_scalars
    (scalars : ∀ update ∈ notification.update, update.isComplete = true →
      update.valueKind = .scalar) :
    notification.namingPath = notification.prefixPath.getD {} := by
  rw [namingPath]
  cases last : (notification.update.filter Update.isComplete).getLast? with
  | none => rfl
  | some update =>
    obtain ⟨member, complete⟩ := List.mem_filter.mp (List.mem_of_getLast? last)
    have noJson : update.jsonPath? = none := by
      rw [Update.jsonPath?_eq, scalars update member complete]
      rfl
    rw [Option.bind_some, noJson]
    rfl

/-! ## Three arrangements -/

def withUpdates (notification : Notification) (updates : List Update) : Notification :=
  { notification with update := updates }

theorem flatten_of_filter_eq (updated : notification.update ≠ []) (filled : updates ≠ [])
    (same : updates.filter Update.isComplete = notification.update.filter Update.isComplete)
    (origin : String) :
    (notification.withUpdates updates).flatten origin = notification.flatten origin := by
  refine flatten_congr ?_ (iff_of_false filled updated) ?_ ?_ ?_ origin
  · rfl
  · rw [isMalformed_iff, isMalformed_iff, withUpdates, same]
  · rw [leafMap, leafMap, decodedLeaves_eq_filter, decodedLeaves_eq_filter, withUpdates, same]
  · exact namingPath_eq_of_last rfl (by rw [withUpdates, same])

theorem flatten_of_perm (perm : updates.Perm notification.update)
    (scalars : ∀ update ∈ notification.update,
      update.isComplete = true → update.valueKind = .scalar)
    (apart : (notification.update.filter Update.isComplete).Pairwise fun first second =>
      first.path.map Path.render ≠ second.path.map Path.render) (origin : String) :
    (notification.withUpdates updates).flatten origin = notification.flatten origin := by
  refine flatten_congr ?_ ?_ ?_ ?_ ?_ origin
  · rfl
  · constructor
    · rintro rfl
      exact perm.nil_eq.symm
    · intro empty
      rw [empty] at perm
      exact perm.eq_nil
  · exact exists_congr fun update => and_congr_left' perm.mem_iff
  · rw [leafMap_eq_insertAll, leafMap_eq_insertAll]
    refine (TextMap.insertAll_flatten_perm ((perm.symm.filter _).map _) ?_ _).symm
    rw [List.pairwise_map]
    refine apart.imp_of_mem ?_
    intro first second inFirst inSecond apart entry own other own' same
    obtain ⟨member, complete⟩ := List.mem_filter.mp inFirst
    obtain ⟨member', complete'⟩ := List.mem_filter.mp inSecond
    apply apart
    rw [Update.key_of_scalar complete (scalars first member complete) entry own,
      Update.key_of_scalar complete' (scalars second member' complete') other own', same]
  · rw [namingPath_of_scalars scalars, namingPath_of_scalars]
    · rfl
    · exact fun update member => scalars update (perm.mem_iff.mp member)

/-- An object may be divided into its members. -/
theorem flatten_of_sharesOut {before after pieces : List Update} {update : Update} {path : Path}
    {members : List (String × Json)} (split : notification.update = before ++ update :: after)
    (has : update.HasObject path members) (filled : members ≠ [])
    (shared : Update.SharesOut pieces path members) (origin : String) :
    (notification.withUpdates (before ++ pieces ++ after)).flatten origin
      = notification.flatten origin := by
  have present := shared.ne_nil filled
  refine flatten_congr ?_ ?_ ?_ ?_ ?_ origin
  · rfl
  · rw [withUpdates, split]
    simp [present]
  · -- Neither the object nor a piece of it is malformed
    refine exists_congr fun candidate => and_congr_left fun malformed => ?_
    have noPiece : candidate ∉ pieces := by
      intro member
      obtain ⟨part, own⟩ := shared.hasObject candidate member
      exact own.sound malformed
    have noObject : candidate ≠ update := by
      rintro rfl
      exact has.sound malformed
    simp [withUpdates, split, noPiece, noObject]
  · simp only [leafMap, decodedLeaves, withUpdates, split, List.flatMap_append, List.flatMap_cons,
      LeafValue.entries_append, TextMap.ofList, TextMap.insertAll_append]
    rw [shared.insertAll_eq has filled]
  · refine namingPath_eq_of_last ?_ ?_
    · rfl
    · have last : (([update].filter Update.isComplete).map Update.jsonPath?).getLast?
          = some (some path) := by
        rw [List.filter_cons_of_pos has.isComplete, List.filter_nil, List.map_singleton,
          has.jsonPath?]
        rfl
      rw [withUpdates, split, List.append_cons]
      simp only [List.filter_append, List.map_append, List.getLast?_append, shared.last filled,
        last]

/-- What a notification comes to, with a map or with an error, stays the same if updates without a
path or without a value are put in or left out, as long as there is an update; if scalars under
distinct paths are put in another order; and if an object is replaced by others that share out its
members. -/
theorem flatten_unaffected (notification : Notification) (origin : String) (updates : List Update) :
    (notification.update ≠ [] → updates ≠ [] →
      updates.filter Update.isComplete = notification.update.filter Update.isComplete →
      (notification.withUpdates updates).flatten origin = notification.flatten origin) ∧
    (updates.Perm notification.update →
      (∀ update ∈ notification.update, update.isComplete = true → update.valueKind = .scalar) →
      ((notification.update.filter Update.isComplete).Pairwise fun first second =>
        first.path.map Path.render ≠ second.path.map Path.render) →
      (notification.withUpdates updates).flatten origin = notification.flatten origin) ∧
    (∀ before update after path members pieces, notification.update = before ++ update :: after →
      update.HasObject path members → members ≠ [] → Update.SharesOut pieces path members →
      updates = before ++ pieces ++ after →
      (notification.withUpdates updates).flatten origin = notification.flatten origin) := by
  refine ⟨fun updated filled same => flatten_of_filter_eq updated filled same origin,
    fun perm scalars apart => flatten_of_perm perm scalars apart origin, ?_⟩
  rintro before update after path members pieces split has filled shared rfl
  exact flatten_of_sharesOut split has filled shared origin

def payloadUpdate (payload : String) : Update where
  path := some
    { elems :=
        [{ name := "policy-map", keys := TextMap.empty.insert "policy-name" "web" },
         { name := "rule-name", keys := TextMap.empty.insert "rule-name" "deny" }] }
  val := some (.jsonIetf payload.toUTF8.data.toList)

def numberUpdate (name : String) (number : UInt64) : Update where
  path := some { elems := [{ name }] }
  val := some (.uint number)

/-- An object with three members, in one of which two leaves have one key. -/
def wholeObject : Update := payloadUpdate "\x7b\"a\": [[1, 2], 3], \"b\": null, \"c\": \x7b\x7d\x7d"

def objectPieces : List Update :=
  [payloadUpdate "\x7b\"c\": \x7b\x7d, \"a\": [[1, 2], 3]\x7d", payloadUpdate "\x7b\"b\": null\x7d"]

theorem sharesOut_objectPieces :
    ∃ path members, wholeObject.HasObject path members ∧ members ≠ [] ∧
      Update.SharesOut objectPieces path members := by
  have whole : wholeObject.HasObject _
      [("a", .array [.array [.integer 1, .integer 2], .integer 3]), ("b", .null),
        ("c", .object [])] :=
    ⟨_, rfl, rfl, rfl⟩
  have first : (payloadUpdate "\x7b\"c\": \x7b\x7d, \"a\": [[1, 2], 3]\x7d").HasObject _
      [("a", .array [.array [.integer 1, .integer 2], .integer 3]), ("c", .object [])] :=
    ⟨_, rfl, rfl, rfl⟩
  have second : (payloadUpdate "\x7b\"b\": null\x7d").HasObject _ [("b", .null)] :=
    ⟨_, rfl, rfl, rfl⟩
  refine ⟨_, _, whole, List.cons_ne_nil _ _, _,
    .cons ⟨first, List.cons_ne_nil _ _⟩ (.cons ⟨second, List.cons_ne_nil _ _⟩ .nil), ?_⟩
  exact .cons _ (.swap _ _ _)

theorem flatten_unaffected_objectPieces :
    (neighbours.withUpdates [numberUpdate "x" 1, wholeObject]).flatten "model"
      = (neighbours.withUpdates
        [numberUpdate "x" 1, wholeObject, { path := some {} }]).flatten "model" ∧
    (neighbours.withUpdates [numberUpdate "x" 1, numberUpdate "y" 2]).flatten "model"
      = (neighbours.withUpdates [numberUpdate "y" 2, numberUpdate "x" 1]).flatten "model" ∧
    (neighbours.withUpdates ([numberUpdate "x" 1] ++ objectPieces ++ [])).flatten "model"
      = (neighbours.withUpdates [numberUpdate "x" 1, wholeObject]).flatten "model" := by
  obtain ⟨path, members, has, filled, shared⟩ := sharesOut_objectPieces
  refine ⟨?_, ?_, ?_⟩
  · exact (flatten_unaffected (neighbours.withUpdates
      [numberUpdate "x" 1, wholeObject, { path := some {} }]) "model" _).1
        (List.cons_ne_nil _ _) (List.cons_ne_nil _ _) rfl
  · exact (flatten_unaffected (neighbours.withUpdates
      [numberUpdate "y" 2, numberUpdate "x" 1]) "model" _).2.1
        (.swap _ _ _) (by decide +kernel) (by decide +kernel)
  · exact (flatten_unaffected (neighbours.withUpdates
      [numberUpdate "x" 1, wholeObject]) "model" _).2.2
        [_] _ [] path members objectPieces rfl has filled shared rfl

end Notification

end PbrTelemetry
