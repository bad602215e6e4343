import Mathlib.Data.List.Dedup
import Mathlib.Data.List.Induction
import Mathlib.Logic.Basic
import Mathlib.Tactic.SplitIfs
import VisualNovel.OrderedMap

/-!
# The keys of an ordered map

Which keys a map has after a change, and that no key comes twice.  A map is given by the order of
its keys and by what is found under them (`eq_of_at?`).  The map that pairs make has the last pair
under each key (`ofPairs_perm`).

Two maps can be merged (`merge`): the keys of the first one come first, and then the new ones of
the second.
-/

namespace VisualNovel.OrderedMap

variable {κ α : Type} [DecidableEq κ] {key other : κ} {value : α} {entries : OrderedMap κ α}

theorem mem_keys_iff : key ∈ keys entries ↔ at? key entries ≠ none := by
  rw [ne_eq, at?_eq_none_iff, not_not]

theorem mem_keys_of_at? (hvalue : at? key entries = some value) : key ∈ keys entries := by
  rw [mem_keys_iff, hvalue]
  exact Option.some_ne_none value

theorem mem_of_at? (hvalue : at? key entries = some value) : (key, value) ∈ entries := by
  induction entries with
  | nil => cases hvalue
  | cons entry rest ih =>
      obtain ⟨first, found⟩ := entry
      rw [at?_cons] at hvalue
      split_ifs at hvalue with hsame
      · cases hvalue
        rw [hsame]
        exact List.mem_cons_self ..
      · exact List.mem_cons_of_mem _ (ih hvalue)

theorem mem_keys_put :
    other ∈ keys (put key value entries) ↔ other = key ∨ other ∈ keys entries := by
  by_cases hsame : other = key
  · subst hsame
    simp [mem_keys_iff]
  · simp [mem_keys_iff, at?_put_of_ne hsame, hsame]

theorem mem_put {entry : κ × α} (hmem : entry ∈ put key value entries) :
    entry = (key, value) ∨ entry ∈ entries := by
  induction entries with
  | nil => exact Or.inl (List.mem_singleton.mp hmem)
  | cons first rest ih =>
      obtain ⟨k, old⟩ := first
      rw [put] at hmem
      split_ifs at hmem with hsame
      · rcases List.mem_cons.mp hmem with rfl | hmem
        · exact Or.inl (by rw [hsame])
        · exact Or.inr (List.mem_cons_of_mem _ hmem)
      · rcases List.mem_cons.mp hmem with rfl | hmem
        · exact Or.inr (List.mem_cons_self ..)
        · exact (ih hmem).imp_right (List.mem_cons_of_mem _)

theorem mem_keys_remove :
    other ∈ keys (remove key entries) ↔ other ≠ key ∧ other ∈ keys entries := by
  by_cases hsame : other = key
  · simp [mem_keys_iff, at?_remove, hsame]
  · simp [mem_keys_iff, at?_remove, hsame]

theorem keys_remove (key : κ) (entries : OrderedMap κ α) :
    keys (remove key entries) = (keys entries).filter fun k => k ≠ key := by
  rw [keys, keys, List.filter_map, remove]
  simp [Function.comp_def]

theorem remove_of_not_mem (habsent : key ∉ keys entries) : remove key entries = entries := by
  refine List.filter_eq_self.mpr ?_
  rintro ⟨k, found⟩ hmem
  have hne : k ≠ key := by
    rintro rfl
    exact habsent (List.mem_map.mpr ⟨_, hmem, rfl⟩)
  simpa using hne

theorem nodup_keys_put (hnodup : (keys entries).Nodup) (key : κ) (value : α) :
    (keys (put key value entries)).Nodup := by
  by_cases hmem : key ∈ keys entries
  · rwa [keys_put_of_mem hmem]
  · rw [keys_put_of_not_mem hmem, List.nodup_append]
    refine ⟨hnodup, List.pairwise_singleton _ _, ?_⟩
    rintro other hother _ hkey rfl
    rw [List.mem_singleton.mp hkey] at hother
    exact hmem hother

/-! ## Maps put together -/

theorem at?_append (key : κ) (first second : OrderedMap κ α) :
    at? key (first ++ second) = (at? key first).or (at? key second) := by
  induction first with
  | nil => rfl
  | cons entry rest ih =>
      obtain ⟨k, found⟩ := entry
      rw [List.cons_append, at?_cons, at?_cons, ih]
      split_ifs <;> rfl

theorem at?_of_mem (hnodup : (keys entries).Nodup) (hmem : (key, value) ∈ entries) :
    at? key entries = some value := by
  induction entries with
  | nil => cases hmem
  | cons entry rest ih =>
      obtain ⟨k, found⟩ := entry
      rw [keys_cons, List.nodup_cons] at hnodup
      rw [at?_cons]
      rcases List.mem_cons.mp hmem with heq | hrest
      · cases heq
        exact if_pos rfl
      · have hne : k ≠ key := by
          rintro rfl
          exact hnodup.1 (List.mem_map.mpr ⟨_, hrest, rfl⟩)
        rw [if_neg hne, ih hnodup.2 hrest]

/-- What is found when only the entries under some of the keys are left. -/
theorem at?_filter_key (keep : κ → Bool) (key : κ) (entries : OrderedMap κ α) :
    at? key (entries.filter fun entry => keep entry.1) =
      if keep key then at? key entries else none := by
  induction entries with
  | nil => rw [List.filter_nil, at?_nil, ite_self]
  | cons entry rest ih =>
      obtain ⟨k, found⟩ := entry
      rw [List.filter_cons]
      by_cases hsame : k = key
      · subst hsame
        split_ifs with hkept
        · rw [at?_cons, at?_cons, if_pos rfl, if_pos rfl]
        · rw [ih, if_neg hkept]
      · rw [at?_cons, if_neg hsame, ← ih]
        split_ifs
        · rw [at?_cons, if_neg hsame]
        · rfl

/-! ## The order of the keys -/

/-- Maps with the same keys in the same order, under which the same is found, are the same. -/
theorem eq_of_at? {others : OrderedMap κ α} (hnodup : (keys entries).Nodup)
    (hkeys : keys entries = keys others)
    (hfound : ∀ key, at? key entries = at? key others) : entries = others := by
  induction entries generalizing others with
  | nil =>
      cases others with
      | nil => rfl
      | cons entry rest => cases hkeys
  | cons entry rest ih =>
      cases others with
      | nil => cases hkeys
      | cons entry' rest' =>
          obtain ⟨first, value⟩ := entry
          obtain ⟨first', value'⟩ := entry'
          simp only [keys_cons, List.cons.injEq, List.nodup_cons] at hkeys hnodup
          obtain ⟨rfl, hkeys⟩ := hkeys
          have hvalue : value = value' := by simpa using hfound first
          have hrest : rest = rest' := by
            refine ih hnodup.2 hkeys fun key => ?_
            by_cases hsame : first = key
            · subst hsame
              rw [at?_eq_none_iff.mpr hnodup.1, at?_eq_none_iff.mpr (hkeys ▸ hnodup.1)]
            · simpa [hsame] using hfound key
          rw [hvalue, hrest]

theorem keys_put_of_eraseDups {names : List κ} (hkeys : keys entries = names.eraseDups) (key : κ)
    (value : α) : keys (put key value entries) = (names ++ [key]).eraseDups := by
  rw [List.eraseDups_append]
  by_cases hmem : key ∈ names
  · have hpresent : key ∈ keys entries := by rwa [hkeys, List.mem_eraseDups]
    have hnone : [key].removeAll names = [] := by simp [List.removeAll, hmem]
    rw [keys_put_of_mem hpresent, hkeys, hnone, List.eraseDups_nil, List.append_nil]
  · have habsent : key ∉ keys entries := by rwa [hkeys, List.mem_eraseDups]
    have hone : [key].removeAll names = [key] := by simp [List.removeAll, hmem]
    rw [keys_put_of_not_mem habsent, hkeys, hone]
    rfl

/-! ## Storing under new keys -/

theorem put_of_not_mem (habsent : key ∉ keys entries) :
    put key value entries = entries ++ [(key, value)] := by
  induction entries with
  | nil => rfl
  | cons entry rest ih =>
      obtain ⟨first, old⟩ := entry
      rw [keys_cons, List.mem_cons, not_or] at habsent
      rw [put, if_neg (Ne.symm habsent.1), ih habsent.2, List.cons_append]

theorem foldl_put_of_nodup {pairs : List (κ × α)}
    (hnodup : (keys entries ++ pairs.map Prod.fst).Nodup) :
    pairs.foldl (fun entries pair => put pair.1 pair.2 entries) entries = entries ++ pairs := by
  induction pairs generalizing entries with
  | nil => simp
  | cons pair rest ih =>
      have habsent : pair.1 ∉ keys entries := by
        rw [List.nodup_append] at hnodup
        intro hmem
        exact hnodup.2.2 _ hmem _ (List.mem_cons_self ..) rfl
      have hnext : (keys (entries ++ [pair]) ++ rest.map Prod.fst).Nodup := by
        simpa [keys] using hnodup
      rw [List.foldl_cons, put_of_not_mem habsent, ih hnext, List.append_assoc,
        List.singleton_append]

theorem ofPairs_concat (pairs : List (κ × α)) (pair : κ × α) :
    ofPairs (pairs ++ [pair]) = put pair.1 pair.2 (ofPairs pairs) := by
  rw [ofPairs, ofPairs, List.foldl_append]
  rfl

theorem nodup_keys_ofPairs (pairs : List (κ × α)) : (keys (ofPairs pairs)).Nodup := by
  induction pairs using List.reverseRecOn with
  | nil => exact List.nodup_nil
  | append_singleton pairs pair ih =>
      rw [ofPairs_concat]
      exact nodup_keys_put ih _ _

theorem mem_of_mem_ofPairs {pairs : List (κ × α)} {entry : κ × α} (hmem : entry ∈ ofPairs pairs) :
    entry ∈ pairs := by
  induction pairs using List.reverseRecOn with
  | nil => exact hmem
  | append_singleton pairs pair ih =>
      rw [ofPairs_concat] at hmem
      rcases mem_put hmem with rfl | hmem
      · exact List.mem_append_right _ (List.mem_singleton_self _)
      · exact List.mem_append_left _ (ih hmem)

/-- The keys of the map that pairs make are those of the pairs, in the order in which they first
come. -/
theorem keys_ofPairs (pairs : List (κ × α)) :
    keys (ofPairs pairs) = (pairs.map Prod.fst).eraseDups := by
  induction pairs using List.reverseRecOn with
  | nil => rfl
  | append_singleton pairs pair ih =>
      rw [ofPairs_concat, List.map_append, List.map_singleton]
      exact keys_put_of_eraseDups ih _ _

theorem mem_keys_ofPairs {pairs : List (κ × α)} {key : κ} :
    key ∈ keys (ofPairs pairs) ↔ key ∈ pairs.map Prod.fst := by
  rw [keys_ofPairs, List.mem_eraseDups]

theorem nodup_eraseDups (names : List κ) : names.eraseDups.Nodup := by
  have hnodup := nodup_keys_ofPairs (names.map fun name => (name, ()))
  rw [keys_ofPairs, List.map_map] at hnodup
  simpa [Function.comp_def] using hnodup

theorem ofPairs_of_nodup {pairs : List (κ × α)} (hnodup : (pairs.map Prod.fst).Nodup) :
    ofPairs pairs = pairs :=
  foldl_put_of_nodup hnodup

/-! ## One map after another -/

/-- One map and then another one.  Under a key of both is what is made of the two values. -/
def merge (combine : α → α → α) (entries more : OrderedMap κ α) : OrderedMap κ α :=
  more.foldl (fun merged entry =>
    put entry.1 (((at? entry.1 merged).map fun old => combine old entry.2).getD entry.2) merged)
    entries

variable {more : OrderedMap κ α}

theorem nodup_keys_merge (hnodup : (keys entries).Nodup) (combine : α → α → α)
    (more : OrderedMap κ α) : (keys (merge combine entries more)).Nodup := by
  induction more generalizing entries with
  | nil => exact hnodup
  | cons entry rest ih => exact ih (nodup_keys_put hnodup _ _)

theorem at?_merge (hnodup : (keys more).Nodup) (combine : α → α → α) (entries : OrderedMap κ α)
    (key : κ) :
    at? key (merge combine entries more) =
      Option.merge combine (at? key entries) (at? key more) := by
  induction more generalizing entries with
  | nil =>
      rw [at?_nil, Option.merge_none_right]
      rfl
  | cons entry rest ih =>
      obtain ⟨first, value⟩ := entry
      rw [keys_cons, List.nodup_cons] at hnodup
      rw [at?_cons]
      refine (ih hnodup.2 _).trans ?_
      by_cases hsame : first = key
      · subst hsame
        rw [at?_put_self, at?_eq_none_iff.mpr hnodup.1, if_pos rfl]
        cases at? first entries <;> rfl
      · rw [at?_put_of_ne (Ne.symm hsame), if_neg hsame]

/-- The keys of the first map come first, and then the new ones. -/
theorem keys_merge (hnodup : (keys more).Nodup) (combine : α → α → α) (entries : OrderedMap κ α) :
    keys (merge combine entries more) =
      keys entries ++ (keys more).filter fun key => key ∉ keys entries := by
  induction more generalizing entries with
  | nil => exact (List.append_nil _).symm
  | cons entry rest ih =>
      obtain ⟨first, value⟩ := entry
      rw [keys_cons, List.nodup_cons] at hnodup
      refine (ih hnodup.2 _).trans ?_
      by_cases hmem : first ∈ keys entries
      · rw [keys_put_of_mem hmem, keys_cons, List.filter_cons_of_neg (by simpa using hmem)]
      · have hothers : ((keys rest).filter fun key => key ∉ keys entries ++ [first]) =
            (keys rest).filter fun key => key ∉ keys entries := by
          refine List.filter_congr fun key hkey => ?_
          have hne : key ≠ first := by
            rintro rfl
            exact hnodup.1 hkey
          simp [hne]
        rw [keys_put_of_not_mem hmem, hothers, keys_cons,
          List.filter_cons_of_pos (by simpa using hmem), List.append_assoc, List.singleton_append]

/-- What is stored in the second map might as well be stored after merging. -/
theorem merge_put (hentries : (keys entries).Nodup) (hmore : (keys more).Nodup)
    (combine : α → α → α) (key : κ) (value : α) :
    merge combine entries (put key value more) =
      put key (((at? key entries).map fun old => combine old value).getD value)
        (merge combine entries more) := by
  have hput := nodup_keys_put hmore key value
  refine eq_of_at? (nodup_keys_merge hentries _ _) ?_ fun other => ?_
  · rw [keys_merge hput]
    have hkeys := keys_merge hmore combine entries
    by_cases hmem : key ∈ keys more
    · have hpresent : key ∈ keys (merge combine entries more) := by
        rw [hkeys]
        simp [hmem, em]
      rw [keys_put_of_mem hmem, keys_put_of_mem hpresent, hkeys]
    · rw [keys_put_of_not_mem hmem, List.filter_append, ← List.append_assoc, ← hkeys]
      by_cases hknown : key ∈ keys entries
      · have hpresent : key ∈ keys (merge combine entries more) := by
          rw [hkeys]
          exact List.mem_append_left _ hknown
        rw [keys_put_of_mem hpresent, List.filter_singleton]
        simp [hknown]
      · have habsent : key ∉ keys (merge combine entries more) := by
          rw [hkeys]
          simp [hknown, hmem]
        rw [keys_put_of_not_mem habsent, List.filter_singleton]
        simp [hknown]
  · rw [at?_merge hput]
    by_cases hsame : other = key
    · subst hsame
      rw [at?_put_self, at?_put_self]
      cases at? other entries <;> rfl
    · rw [at?_put_of_ne hsame, at?_put_of_ne hsame, at?_merge hmore]

/-! ## The last ones -/

/-- Up to the order of the entries, what is stored takes the place of the old value. -/
theorem put_perm (hnodup : (keys entries).Nodup) (key : κ) (value : α) :
    (put key value entries).Perm (remove key entries ++ [(key, value)]) := by
  induction entries with
  | nil => exact List.Perm.refl _
  | cons entry rest ih =>
      obtain ⟨first, old⟩ := entry
      rw [keys_cons, List.nodup_cons] at hnodup
      by_cases hsame : first = key
      · -- the old value is removed, and no other one
        subst hsame
        have hrest : remove first ((first, old) :: rest) = rest := by
          rw [remove, List.filter_cons_of_neg (by simp)]
          exact remove_of_not_mem hnodup.1
        rw [put, if_pos rfl, hrest]
        exact (List.perm_append_singleton _ _).symm
      · have hrest : remove key ((first, old) :: rest) = (first, old) :: remove key rest :=
          List.filter_cons_of_pos (by simp [hsame])
        rw [put, if_neg hsame, hrest]
        exact (ih hnodup.2).cons _

variable {ν β : Type} [DecidableEq ν] {item : β} {items : List β}

/-- Of all things under one key only the last one. -/
def lastBy (key : β → κ) (items : List β) : List β :=
  items.pwFilter fun first second => key first ≠ key second

theorem lastBy_sublist (key : β → κ) (items : List β) : (lastBy key items).Sublist items :=
  List.pwFilter_sublist items

theorem forall_mem_lastBy_iff (key : β → κ) (item : β) (items : List β) :
    (∀ other ∈ lastBy key items, key item ≠ key other) ↔
      ∀ other ∈ items, key item ≠ key other := by
  refine List.forall_mem_pwFilter (fun {first second third} hne => ?_) item items
  by_contra! hsame
  exact hne (hsame.1.trans hsame.2)

theorem exists_mem_lastBy (key : β → κ) (hmem : item ∈ items) :
    ∃ last ∈ lastBy key items, key last = key item := by
  by_contra! hnone
  have hnew := (forall_mem_lastBy_iff key item items).mp fun other hother =>
    (hnone other hother).symm
  exact hnew item hmem rfl

theorem lastBy_cons (key : β → κ) (item : β) (items : List β) :
    lastBy key (item :: items) =
      if ∀ other ∈ items, key item ≠ key other then item :: lastBy key items
      else lastBy key items := by
  rw [← if_congr (forall_mem_lastBy_iff key item items) rfl rfl]
  rfl

theorem lastBy_map {γ : Type} (key : β → κ) (f : γ → β) (items : List γ) :
    lastBy key (items.map f) = (lastBy (fun item => key (f item)) items).map f :=
  List.pwFilter_map f items

theorem lastBy_eq_self_iff (key : β → κ) (items : List β) :
    lastBy key items = items ↔ (items.map key).Nodup := by
  rw [List.Nodup, List.pairwise_map]
  exact List.pwFilter_eq_self

/-- The last ones do not depend on what the keys are, only on which of them are the same. -/
theorem lastBy_congr {key : β → κ} {other : β → ν} {items : List β}
    (hsame : ∀ first ∈ items, ∀ second ∈ items,
      key first = key second ↔ other first = other second) :
    lastBy key items = lastBy other items := by
  induction items with
  | nil => rfl
  | cons item rest ih =>
      have hrest := ih fun first hfirst second hsecond =>
        hsame first (List.mem_cons_of_mem _ hfirst) second (List.mem_cons_of_mem _ hsecond)
      have hnew : (∀ later ∈ rest, key item ≠ key later) ↔
          ∀ later ∈ rest, other item ≠ other later :=
        forall₂_congr fun later hlater =>
          (hsame item (List.mem_cons_self ..) later (List.mem_cons_of_mem _ hlater)).not
      rw [lastBy_cons, lastBy_cons, hrest, if_congr hnew rfl rfl]

/-- The last ones are all there are if they are as many. -/
theorem length_lastBy_eq_iff (key : β → κ) (items : List β) :
    (lastBy key items).length = items.length ↔ (items.map key).Nodup := by
  rw [← lastBy_eq_self_iff]
  exact ⟨(lastBy_sublist key items).eq_of_length, congrArg List.length⟩

theorem nodup_lastBy (key : β → κ) (items : List β) : ((lastBy key items).map key).Nodup := by
  rw [List.Nodup, List.pairwise_map]
  exact List.pairwise_pwFilter items

/-- One more thing takes the place of the one under its key. -/
theorem lastBy_concat (key : β → κ) (items : List β) (item : β) :
    lastBy key (items ++ [item]) =
      (lastBy key items).filter (fun other => key other ≠ key item) ++ [item] := by
  induction items with
  | nil => rfl
  | cons first rest ih =>
      rw [List.cons_append, lastBy_cons, lastBy_cons, ih]
      by_cases hsame : key first = key item
      · have hold : ¬ ∀ other ∈ rest ++ [item], key first ≠ key other :=
          fun hnew => hnew item (List.mem_append_right _ (List.mem_singleton_self _)) hsame
        rw [if_neg hold]
        split_ifs
        · rw [List.filter_cons_of_neg (by simp [hsame])]
        · rfl
      · have hiff : (∀ other ∈ rest ++ [item], key first ≠ key other) ↔
            ∀ other ∈ rest, key first ≠ key other := by
          rw [List.forall_mem_append, List.forall_mem_singleton]
          exact and_iff_left hsame
        rw [if_congr hiff rfl rfl]
        split_ifs
        · rw [List.filter_cons_of_pos (by simp [hsame]), List.cons_append]
        · rfl

/-- The map that pairs make has the last pair under each key. -/
theorem ofPairs_perm (pairs : List (κ × α)) : (ofPairs pairs).Perm (lastBy Prod.fst pairs) := by
  induction pairs using List.reverseRecOn with
  | nil => exact List.Perm.refl _
  | append_singleton pairs pair ih =>
      rw [ofPairs_concat, lastBy_concat]
      refine (put_perm (nodup_keys_ofPairs pairs) _ _).trans (List.Perm.append_right _ ?_)
      simpa only [remove, decide_not, ne_eq] using ih.filter fun entry => !decide (entry.1 = pair.1)

/-- The last ones by a coarser key are among the last ones. -/
theorem lastBy_lastBy (key : β → κ) (coarser : κ → ν) (items : List β) :
    lastBy (fun item => coarser (key item)) (lastBy key items) =
      lastBy (fun item => coarser (key item)) items := by
  induction items with
  | nil => rfl
  | cons item rest ih =>
      rw [lastBy_cons key, lastBy_cons _ item rest]
      split_ifs with hnew hcoarser hcoarser
      · rw [lastBy_cons, if_pos, ih]
        exact fun other hmem => hcoarser other ((lastBy_sublist key rest).mem hmem)
      · rw [lastBy_cons, if_neg, ih]
        intro hkept
        refine hcoarser fun other hmem => ?_
        obtain ⟨last, hlast, hkey⟩ := exists_mem_lastBy key hmem
        rw [← hkey]
        exact hkept last hlast
      · exact absurd (fun other hmem hkey => hcoarser other hmem (congrArg coarser hkey)) hnew
      · exact ih

/-- The last ones by a coarser key are all last ones if it takes no two of the keys together. -/
theorem lastBy_perm_iff (key : β → κ) (coarser : κ → ν) (items : List β) :
    (lastBy (fun item => coarser (key item)) items).Perm (lastBy key items) ↔
      ∀ first ∈ items, ∀ second ∈ items,
        coarser (key first) = coarser (key second) → key first = key second := by
  rw [← lastBy_lastBy]
  constructor
  · intro hperm first hfirst second hsecond hsame
    have hself := (lastBy_sublist _ _).eq_of_length hperm.length_eq
    have hnodup := (lastBy_eq_self_iff _ _).mp hself
    obtain ⟨one, hone, hfirstKey⟩ := exists_mem_lastBy key hfirst
    obtain ⟨other, hother, hsecondKey⟩ := exists_mem_lastBy key hsecond
    rw [← hfirstKey, ← hsecondKey] at hsame ⊢
    rw [List.inj_on_of_nodup_map hnodup hone hother hsame]
  · intro hinjective
    refine List.Perm.of_eq ((lastBy_eq_self_iff _ _).mpr ?_)
    have hnodup := nodup_lastBy key items
    rw [List.Nodup, List.pairwise_map] at hnodup ⊢
    refine hnodup.imp_of_mem fun hfirst hsecond hne hsame => hne ?_
    exact hinjective _ ((lastBy_sublist _ _).mem hfirst) _ ((lastBy_sublist _ _).mem hsecond) hsame

end VisualNovel.OrderedMap
