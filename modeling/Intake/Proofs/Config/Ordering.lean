import Intake.Config.Load
import Mathlib.Data.List.Induction
import Mathlib.Data.String.Basic

/-!
# Mappings in order

The keys of a mapping are unique and in order, in every setting that a document or a variable gives
and in all that comes of laying settings over one another (`Setting.Ordered`). So what a key stands
for does not depend on where its entry is looked for.

* `mem_iff_find?`: an entry is in a mapping just if its key stands for its setting there.
* `Ordered.merge`: settings that are laid over others stay in order.
* `Environment.ordered_entries`, `Config.ordered_documentEntries`: both layers are in order.
-/

namespace Intake

namespace Setting

/-- The keys of mappings are unique and in order, wherever keys lead. No key leads into a
sequence. -/
inductive Ordered : Setting → Prop
  | scalar (origin : Origin) (value : Scalar) : Ordered (.scalar origin value)
  | sequence (origin : Origin) (items : List Setting) : Ordered (.sequence origin items)
  | mapping {origin : Origin} {entries : Entries} (keys : (entries.map Prod.fst).Pairwise (· < ·))
      (inside : ∀ entry ∈ entries, Ordered entry.2) : Ordered (.mapping origin entries)

/-- Entries of a mapping that is in order. -/
structure OrderedEntries (entries : Entries) : Prop where
  keys : (entries.map Prod.fst).Pairwise (· < ·)
  inside : ∀ entry ∈ entries, entry.2.Ordered

theorem OrderedEntries.mapping {entries : Entries} (ordered : OrderedEntries entries)
    (origin : Origin) : (Setting.mapping origin entries).Ordered :=
  Ordered.mapping ordered.keys ordered.inside

theorem Ordered.entries {origin : Origin} {entries : Entries}
    (ordered : (Setting.mapping origin entries).Ordered) : OrderedEntries entries := by
  cases ordered with
  | mapping keys inside => exact ⟨keys, inside⟩

theorem orderedEntries_nil : OrderedEntries [] :=
  ⟨.nil, nofun⟩

theorem OrderedEntries.unique {entries : Entries} (ordered : OrderedEntries entries) :
    (entries.map Prod.fst).Nodup :=
  ordered.keys.imp fun less => ne_of_lt less

/-! ## Entries and keys -/

theorem mem_of_find? {key : String} {value : Setting} {entries : Entries}
    (found : find? key entries = some value) : (key, value) ∈ entries := by
  induction entries with
  | nil => cases found
  | cons entry rest ih =>
    obtain ⟨k, v⟩ := entry
    rw [find?] at found
    split at found
    · next same =>
      rw [same, Option.some.inj found]
      exact List.mem_cons_self ..
    · exact List.mem_cons_of_mem _ (ih found)

/-- An entry is in a mapping just if its key stands for its setting there. -/
theorem OrderedEntries.mem_iff_find? {entries : Entries} (ordered : OrderedEntries entries)
    {key : String} {value : Setting} :
    (key, value) ∈ entries ↔ find? key entries = some value := by
  refine ⟨fun member => ?_, mem_of_find?⟩
  have unique := ordered.unique
  clear ordered
  induction entries with
  | nil => cases member
  | cons entry rest ih =>
    obtain ⟨k, v⟩ := entry
    rw [List.map_cons, List.nodup_cons] at unique
    rw [find?]
    rcases List.mem_cons.mp member with same | later
    · rw [if_pos (congrArg Prod.fst same), Option.some.injEq]
      exact (congrArg Prod.snd same).symm
    · have other : key ≠ k := by
        intro same
        exact unique.1 (List.mem_map.mpr ⟨_, later, same⟩)
      rw [if_neg other]
      exact ih later unique.2

theorem mem_put {key : String} {value : Setting} {entries : Entries} {entry : String × Setting}
    (member : entry ∈ put key value entries) : entry = (key, value) ∨ entry ∈ entries := by
  induction entries with
  | nil => exact .inl (List.mem_singleton.mp member)
  | cons first rest ih =>
    obtain ⟨k, v⟩ := first
    rw [put] at member
    split at member
    · exact (List.mem_cons.mp member).imp_right (List.mem_cons_of_mem _)
    · split at member
      · exact List.mem_cons.mp member
      · rcases List.mem_cons.mp member with rfl | later
        · exact .inr (List.mem_cons_self ..)
        · exact (ih later).imp_right (List.mem_cons_of_mem _)

/-- Putting an entry keeps the order. -/
theorem OrderedEntries.put {key : String} {value : Setting} {entries : Entries}
    (ordered : OrderedEntries entries) (inner : value.Ordered) :
    OrderedEntries (put key value entries) := by
  refine ⟨?_, fun entry member => ?_⟩
  · have keys := ordered.keys
    clear ordered
    induction entries with
    | nil => exact List.pairwise_singleton ..
    | cons first rest ih =>
      obtain ⟨k, v⟩ := first
      have behind := List.pairwise_cons.mp keys
      rw [Setting.put]
      split
      · next same =>
        rw [List.map_cons, same]
        exact keys
      · next other =>
        split
        · next less =>
          refine List.pairwise_cons.mpr ⟨fun later member => ?_, keys⟩
          rcases List.mem_cons.mp member with rfl | inside
          · exact less
          · exact lt_trans less (behind.1 later inside)
        · next notLess =>
          refine List.pairwise_cons.mpr ⟨fun later member => ?_, ih behind.2⟩
          obtain ⟨entry, inside, rfl⟩ := List.mem_map.mp member
          rcases mem_put inside with rfl | old
          · exact lt_of_le_of_ne (not_lt.mp notLess) (Ne.symm other)
          · exact behind.1 _ (List.mem_map_of_mem old)
  · rcases mem_put member with rfl | old
    · exact inner
    · exact ordered.inside entry old

/-! ## Settings over settings -/

theorem merge_scalar (lower : Setting) (origin : Origin) (value : Scalar) :
    merge lower (scalar origin value) = scalar origin value := by
  rw [merge]
  exact nofun

theorem merge_sequence (lower : Setting) (origin : Origin) (items : List Setting) :
    merge lower (sequence origin items) = sequence origin items := by
  rw [merge]
  exact nofun

/-- A setting has keys. -/
def IsMapping (s : Setting) : Prop :=
  ∃ origin entries, s = mapping origin entries

/-- Over a setting without keys the upper one counts as a whole. -/
theorem merge_of_not_isMapping {lower : Setting} (keyless : ¬ lower.IsMapping) (upper : Setting) :
    merge lower upper = upper := by
  cases upper with
  | scalar origin value => exact merge_scalar lower origin value
  | sequence origin items => exact merge_sequence lower origin items
  | mapping origin entries =>
    rw [merge]
    exact fun other old same => keyless ⟨other, old, same⟩

theorem merge_mapping (origin other : Origin) (lower upper : Entries) :
    merge (mapping other lower) (mapping origin upper) =
      mapping origin (mergeEntries lower upper) := by
  rw [merge]

/-- Entries that are laid over others stay in order, if each of them does over what it is laid
over. -/
theorem OrderedEntries.mergeEntries {lower upper : Entries} (ordered : OrderedEntries lower)
    (above : ∀ entry ∈ upper, entry.2.Ordered ∧
      ∀ old : Setting, old.Ordered → (merge old entry.2).Ordered) :
    OrderedEntries (mergeEntries lower upper) := by
  induction upper generalizing lower with
  | nil =>
    rw [Setting.mergeEntries]
    exact ordered
  | cons entry rest ih =>
    obtain ⟨key, value⟩ := entry
    obtain ⟨inner, laid⟩ := above _ (List.mem_cons_self ..)
    rw [mergeEntries_cons]
    apply ih _ fun later member => above later (List.mem_cons_of_mem _ member)
    apply ordered.put
    split
    · next old found => exact laid old (ordered.inside _ (mem_of_find? found))
    · exact inner

/-- A setting that is laid over another one stays in order. -/
theorem Ordered.merge {lower upper : Setting} (below : lower.Ordered) (above : upper.Ordered) :
    (merge lower upper).Ordered := by
  induction above generalizing lower with
  | scalar origin value =>
    rw [merge_scalar]
    exact .scalar origin value
  | sequence origin items =>
    rw [merge_sequence]
    exact .sequence origin items
  | @mapping origin upper keys inside ih =>
    by_cases keyed : lower.IsMapping
    · obtain ⟨other, entries, rfl⟩ := keyed
      rw [merge_mapping]
      apply OrderedEntries.mapping
      exact below.entries.mergeEntries fun entry member =>
        ⟨inside entry member, fun old ordered => ih entry member ordered⟩
    · rw [merge_of_not_isMapping keyed]
      exact .mapping keys inside

/-- Entries in order stay so when they are laid over such. -/
theorem OrderedEntries.layered {lower upper : Entries} (below : OrderedEntries lower)
    (above : OrderedEntries upper) : OrderedEntries (Setting.mergeEntries lower upper) :=
  below.mergeEntries fun entry member =>
    ⟨above.inside entry member, fun _ ordered => ordered.merge (above.inside entry member)⟩

theorem Ordered.nest {value : Setting} (ordered : value.Ordered) (origin : Origin)
    (path : List String) : (nest origin value path).Ordered := by
  induction path with
  | nil => exact ordered
  | cons key path ih =>
    refine .mapping (List.pairwise_singleton ..) fun entry member => ?_
    obtain rfl := List.mem_singleton.mp member
    exact ih

end Setting

open Setting

/-! ## Variables -/

namespace Environment

/-- Values of variables are in order, and so are entries that are read behind such. -/
theorem ordered_readValue (fuel : Nat) :
    (∀ cs setting after, readValue fuel cs = some (setting, after) → setting.Ordered) ∧
      ∀ done cs entries after, OrderedEntries done → readEntries fuel done cs = some (entries, after) →
        OrderedEntries entries := by
  induction fuel with
  | zero =>
    constructor
    · intro cs setting after read
      simp only [readValue] at read
      cases read
    · intro done cs entries after ordered read
      simp only [readEntries] at read
      cases read
  | succ fuel ih =>
    obtain ⟨values, mappings⟩ := ih
    constructor
    · intro cs setting after read
      unfold readValue at read
      split at read
      · cases read
      · next more fuels _ =>
        obtain rfl := Nat.succ.inj fuels
        obtain ⟨⟨entries, rest⟩, inside, same⟩ := Option.map_eq_some_iff.mp read
        obtain ⟨rfl, -⟩ := Prod.mk.inj same
        exact (mappings _ _ _ _ orderedEntries_nil inside).mapping .environment
      · obtain ⟨⟨items, rest⟩, -, same⟩ := Option.map_eq_some_iff.mp read
        obtain ⟨rfl, -⟩ := Prod.mk.inj same
        exact .sequence .environment items
      · obtain ⟨⟨value, rest⟩, -, same⟩ := Option.map_eq_some_iff.mp read
        obtain ⟨rfl, -⟩ := Prod.mk.inj same
        exact .scalar .environment value
    · intro done cs entries after ordered read
      unfold readEntries at read
      split at read
      · cases read
      · obtain ⟨rfl, -⟩ := Prod.mk.inj (Option.some.inj read)
        exact ordered
      · next more fuels _ =>
        obtain rfl := Nat.succ.inj fuels
        split at read
        · cases read
        · split at read
          · split at read
            · next value _ inside =>
              obtain ⟨rfl, -⟩ := Prod.mk.inj (Option.some.inj read)
              exact ordered.put (values _ _ _ inside)
            · next value _ inside => exact mappings _ _ _ _ (ordered.put (values _ _ _ inside)) read
            · cases read
          · cases read

theorem ordered_settingOfValue (value : String) : (settingOfValue value).Ordered := by
  unfold settingOfValue
  split
  · next setting read => exact (ordered_readValue _).1 _ _ _ read
  · exact .scalar .environment (.text value)

theorem ordered_entriesOf (name value : String) : OrderedEntries (entriesOf name value) := by
  unfold entriesOf
  split
  · next path _ =>
    have nested := (ordered_settingOfValue value).nest .environment path
    generalize nest .environment (settingOfValue value) path = nested_ at nested
    cases nested_ with
    | scalar origin value => exact orderedEntries_nil
    | sequence origin items => exact orderedEntries_nil
    | mapping origin entries => exact nested.entries
  · exact orderedEntries_nil

/-- The last variable lies over the others. -/
theorem entries_concat (env : Environment) (last : String × String) :
    entries (env ++ [last]) = mergeEntries env.entries (entriesOf last.1 last.2) := by
  unfold entries
  rw [List.foldl_append]
  rfl

/-- What variables give is in order. -/
theorem ordered_entries (env : Environment) : OrderedEntries env.entries := by
  induction env using List.reverseRecOn with
  | nil => exact orderedEntries_nil
  | append_singleton before last ih =>
    rw [entries_concat]
    exact ih.layered (ordered_entriesOf last.1 last.2)

end Environment

/-! ## Documents -/

theorem bind_eq_ok {ε α β : Type} {x : Except ε α} {f : α → Except ε β} {b : β}
    (ok : (x >>= f) = .ok b) : ∃ a, x = .ok a ∧ f a = .ok b := by
  cases x with
  | error e => cases ok
  | ok a => exact ⟨a, rfl, ok⟩

namespace Yaml

/-- Nodes of documents are in order, and so are entries that are read behind such. -/
theorem ordered_readNode (ending : Fault) (fuel : Nat) :
    (∀ depth position path stops tokens setting rest,
      readNode ending fuel depth position path stops tokens = .ok (setting, rest) →
        setting.Ordered) ∧
    (∀ depth position path stops tokens setting rest,
      readValue ending fuel depth position path stops tokens = .ok (setting, rest) →
        setting.Ordered) ∧
    (∀ depth start path done tokens entries rest, OrderedEntries done →
      readLines ending fuel depth start path done tokens = .ok (entries, rest) →
        OrderedEntries entries) ∧
    ∀ depth start path first done tokens entries rest, OrderedEntries done →
      readPairs ending fuel depth start path first done tokens = .ok (entries, rest) →
        OrderedEntries entries := by
  induction fuel with
  | zero =>
    refine ⟨?_, ?_, ?_, ?_⟩
    · intro depth position path stops tokens setting rest read
      simp only [readNode] at read
      cases read
    · intro depth position path stops tokens setting rest read
      simp only [readValue] at read
      cases read
    · intro depth start path done tokens entries rest ordered read
      simp only [readLines] at read
      cases read
    · intro depth start path first done tokens entries rest ordered read
      simp only [readPairs] at read
      cases read
  | succ fuel ih =>
    obtain ⟨nodes, values, lines, pairs⟩ := ih
    refine ⟨?_, ?_, ?_, ?_⟩
    · intro depth position path stops tokens setting rest read
      unfold readNode at read
      split at read
      · cases read
      · cases read
      · next fuels =>
        obtain rfl := Nat.succ.inj fuels
        split at read
        · obtain ⟨rfl, -⟩ := Prod.mk.inj (Except.ok.inj read)
          exact .scalar .file .null
        · split at read
          · obtain ⟨rfl, -⟩ := Prod.mk.inj (Except.ok.inj read)
            exact .scalar .file _
          · cases read
          · obtain ⟨depth, -, read⟩ := bind_eq_ok read
            split at read
            · obtain ⟨⟨entries, behind⟩, inside, read⟩ := bind_eq_ok read
              obtain ⟨rfl, -⟩ := Prod.mk.inj (Except.ok.inj read)
              exact (lines _ _ _ _ _ _ _ orderedEntries_nil inside).mapping .file
            · obtain ⟨⟨entries, behind⟩, inside, read⟩ := bind_eq_ok read
              obtain ⟨rfl, -⟩ := Prod.mk.inj (Except.ok.inj read)
              exact (pairs _ _ _ _ _ _ _ _ orderedEntries_nil inside).mapping .file
            · obtain ⟨⟨items, behind⟩, -, read⟩ := bind_eq_ok read
              obtain ⟨rfl, -⟩ := Prod.mk.inj (Except.ok.inj read)
              exact .sequence .file items.reverse
            · obtain ⟨⟨items, behind⟩, -, read⟩ := bind_eq_ok read
              obtain ⟨rfl, -⟩ := Prod.mk.inj (Except.ok.inj read)
              exact .sequence .file items.reverse
    · intro depth position path stops tokens setting rest read
      unfold readValue at read
      split at read
      · cases read
      · cases read
      · next fuels =>
        obtain rfl := Nat.succ.inj fuels
        split at read
        · exact nodes _ _ _ _ _ _ _ read
        · obtain ⟨rfl, -⟩ := Prod.mk.inj (Except.ok.inj read)
          exact .scalar .file .null
    · intro depth start path done tokens entries rest ordered read
      unfold readLines at read
      split at read
      · cases read
      · cases read
      · next fuels =>
        obtain rfl := Nat.succ.inj fuels
        split at read
        · obtain ⟨rfl, -⟩ := Prod.mk.inj (Except.ok.inj read)
          exact ordered
        · obtain ⟨⟨key, behind⟩, -, read⟩ := bind_eq_ok read
          obtain ⟨⟨value, behind⟩, inside, read⟩ := bind_eq_ok read
          exact lines _ _ _ _ _ _ _ (ordered.put (values _ _ _ _ _ _ _ inside)) read
        · cases read
    · intro depth start path first done tokens entries rest ordered read
      rw [readPairs] at read
      obtain ⟨inside, -, read⟩ := bind_eq_ok read
      split at read
      · cases read
      · split at read
        · obtain ⟨rfl, -⟩ := Prod.mk.inj (Except.ok.inj read)
          exact ordered
        · obtain ⟨⟨key, behind⟩, -, read⟩ := bind_eq_ok read
          obtain ⟨⟨value, behind⟩, inside, read⟩ := bind_eq_ok read
          exact pairs _ _ _ _ _ _ _ _ (ordered.put (values _ _ _ _ _ _ _ inside)) read
        · obtain ⟨⟨key, behind⟩, -, read⟩ := bind_eq_ok read
          exact pairs _ _ _ _ _ _ _ _ (ordered.put (.scalar .file .null)) read

theorem ordered_readRoot {ending : Fault} {fuel : Nat} {tokens rest : List Token}
    {entries : Entries} (read : readRoot ending fuel tokens = .ok (entries, rest)) :
    OrderedEntries entries := by
  unfold readRoot at read
  split at read
  · cases read
  · split at read
    · cases read
    · cases read
    · obtain ⟨depth, -, read⟩ := bind_eq_ok read
      split at read
      · exact (ordered_readNode ending fuel).2.2.1 _ _ _ _ _ _ _ orderedEntries_nil read
      · exact (ordered_readNode ending fuel).2.2.2 _ _ _ _ _ _ _ _ orderedEntries_nil read
      · cases read

theorem ordered_readDocument {ending : Fault} {fuel : Nat} {tokens rest : List Token}
    {entries : Entries} (read : readDocument ending fuel tokens = .ok (entries, rest)) :
    OrderedEntries entries := by
  unfold readDocument at read
  split at read
  · cases read
  · obtain ⟨rfl, -⟩ := Prod.mk.inj (Except.ok.inj read)
    exact orderedEntries_nil
  · split at read
    · cases read
    · split at read
      · obtain ⟨rfl, -⟩ := Prod.mk.inj (Except.ok.inj read)
        exact orderedEntries_nil
      · exact ordered_readRoot read
  · exact ordered_readRoot read

theorem alone_eq_ok {ending : Fault} {entries found : Entries} {tokens : List Token}
    (accepted : alone ending entries tokens = .ok found) : found = entries := by
  unfold alone at accepted
  split at accepted
  · cases accepted
  · split at accepted
    · exact (Except.ok.inj accepted).symm
    · cases accepted

/-- What a document gives is in order. -/
theorem ordered_read {content : Bytes} {entries : Entries} (found : read content = .ok entries) :
    OrderedEntries entries := by
  unfold read at found
  split at found
  · unfold readText at found
    split at found
    · cases found
    · unfold Tokens.entries at found
      obtain ⟨⟨inside, rest⟩, document, accepted⟩ := bind_eq_ok found
      rw [alone_eq_ok accepted]
      exact ordered_readDocument document
  · cases found

end Yaml

/-- So is what a document gives of which there may be none. -/
theorem Config.ordered_documentEntries {document : Option Bytes} {entries : Entries}
    (read : documentEntries document = .ok entries) : OrderedEntries entries := by
  unfold documentEntries at read
  split at read
  · rw [← Except.ok.inj read]
    exact orderedEntries_nil
  · next content =>
    cases found : Yaml.read content with
    | error fault =>
      rw [found] at read
      cases read
    | ok inside =>
      rw [found] at read
      rw [← Except.ok.inj read]
      exact Yaml.ordered_read found

end Intake
