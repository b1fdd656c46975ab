import Mathlib.Logic.Relation
import Prompter.Proofs.Reading
import Prompter.Value.Normal

namespace Prompter.Value

def parts : Value → List Value
  | list items | tuple items => items
  | map entries | view entries => entries.map (·.2)
  | _ => []

def keys : Value → List Value
  | map entries | view entries => entries.map (·.1)
  | _ => []

/-- Sets, bytes and objects: neither scalars nor sequences nor maps. -/
def IsForeign : Value → Prop
  | set _ | frozenSet _ | bytes _ | byteArray _ | unset | kind _ | argument _ | command _ | routine _ | thing => True
  | _ => False

def Reaches : Value → Value → Prop := Relation.ReflTransGen fun v w => w ∈ v.parts

/-- What keeps a value itself, not one that occurs in it, from being normalized. -/
inductive Bars : Value → Misuse → Prop
  | foreign {v : Value} (h : v.IsForeign) : Bars v (.notConvertible v.typeName)
  | key {v k : Value} (hk : k ∈ v.keys) (h : k.isString = false) : Bars v (.mapKey k.typeName)

mutual

/-- The second value has the shape of the first, with lists and maps for its sequences and maps: the same scalars at the
same places, under the same keys in the same order. -/
inductive Mirrors : Value → Value → Prop
  | none : Mirrors none none
  | boolean (b) : Mirrors (boolean b) (boolean b)
  | integer (i) : Mirrors (integer i) (integer i)
  | number (x) : Mirrors (number x) (number x)
  | string (s) : Mirrors (string s) (string s)
  | list {items others} (h : AllMirror items others) : Mirrors (list items) (list others)
  | tuple {items others} (h : AllMirror items others) : Mirrors (tuple items) (list others)
  | map {entries others} (h : EntriesMirror entries others) : Mirrors (map entries) (map others)
  | view {entries others} (h : EntriesMirror entries others) : Mirrors (view entries) (map others)

inductive AllMirror : List Value → List Value → Prop
  | nil : AllMirror [] []
  | cons {v w items others} (hv : Mirrors v w) (hr : AllMirror items others) : AllMirror (v :: items) (w :: others)

inductive EntriesMirror : List (Value × Value) → List (Value × Value) → Prop
  | nil : EntriesMirror [] []
  | cons {key v w entries others} (hv : Mirrors v w) (hr : EntriesMirror entries others) :
      EntriesMirror ((Value.string key, v) :: entries) ((Value.string key, w) :: others)

end

variable {u v w : Value} {items others : List Value} {entries : List (Value × Value)} {m : Misuse}

theorem category_of_bars (h : v.Bars m) : m.category = .type := by
  cases h with
  | foreign => rfl
  | key => rfl

section Success

theorem map_eq_ok {α β : Type} {x : Except Misuse α} {f : α → β} {b : β} :
    x.map f = .ok b ↔ ∃ a, x = .ok a ∧ f a = b := by
  cases x with
  | ok a => simp [Except.map]
  | error e => simp [Except.map]

theorem keyText_eq_ok {key : String} : keyText v = .ok key ↔ v = string key := by
  cases v <;> simp [keyText]

mutual

theorem mirrors_of_normalize : ∀ (v : Value) {w}, v.normalize = .ok w → Mirrors v w
  | none, _, rfl => .none
  | boolean b, _, rfl => .boolean b
  | integer i, _, rfl => .integer i
  | number x, _, rfl => .number x
  | string s, _, rfl => .string s
  | list items, _, h => by
      obtain ⟨others, hitems, rfl⟩ := map_eq_ok.1 h
      exact .list (allMirror_of_normalize items hitems)
  | tuple items, _, h => by
      obtain ⟨others, hitems, rfl⟩ := map_eq_ok.1 h
      exact .tuple (allMirror_of_normalize items hitems)
  | map entries, _, h => by
      obtain ⟨others, hentries, rfl⟩ := map_eq_ok.1 h
      exact .map (entriesMirror_of_normalize entries hentries)
  | view entries, _, h => by
      obtain ⟨others, hentries, rfl⟩ := map_eq_ok.1 h
      exact .view (entriesMirror_of_normalize entries hentries)

theorem allMirror_of_normalize : ∀ (items : List Value) {others}, normalizeItems items = .ok others →
    AllMirror items others
  | [], _, rfl => .nil
  | v :: items, _, h => by
      obtain ⟨w, hv, h⟩ := Checked.bind_eq_ok.1 h
      obtain ⟨others, hr, h⟩ := Checked.bind_eq_ok.1 h
      cases h
      exact .cons (mirrors_of_normalize v hv) (allMirror_of_normalize items hr)

theorem entriesMirror_of_normalize : ∀ (entries : List (Value × Value)) {others},
    normalizeEntries entries = .ok others → EntriesMirror entries others
  | [], _, rfl => .nil
  | (k, v) :: entries, _, h => by
      obtain ⟨key, hk, h⟩ := Checked.bind_eq_ok.1 h
      obtain ⟨w, hv, h⟩ := Checked.bind_eq_ok.1 h
      obtain ⟨others, hr, h⟩ := Checked.bind_eq_ok.1 h
      cases h
      obtain rfl := keyText_eq_ok.1 hk
      exact .cons (mirrors_of_normalize v hv) (entriesMirror_of_normalize entries hr)

end

mutual

theorem Mirrors.normalize : ∀ {v w}, Mirrors v w → v.normalize = .ok w
  | _, _, .none | _, _, .boolean _ | _, _, .integer _ | _, _, .number _ | _, _, .string _ => rfl
  | _, _, .list h | _, _, .tuple h => map_eq_ok.2 ⟨_, h.normalize, rfl⟩
  | _, _, .map h | _, _, .view h => map_eq_ok.2 ⟨_, h.normalize, rfl⟩

theorem AllMirror.normalize : ∀ {items others}, AllMirror items others → normalizeItems items = .ok others
  | _, _, .nil => rfl
  | _, _, .cons hv hr => Checked.bind_eq_ok.2 ⟨_, hv.normalize, Checked.bind_eq_ok.2 ⟨_, hr.normalize, rfl⟩⟩

theorem EntriesMirror.normalize : ∀ {entries others}, EntriesMirror entries others →
    normalizeEntries entries = .ok others
  | _, _, .nil => rfl
  | _, _, .cons hv hr =>
      Checked.bind_eq_ok.2 ⟨_, rfl, Checked.bind_eq_ok.2 ⟨_, hv.normalize, Checked.bind_eq_ok.2 ⟨_, hr.normalize, rfl⟩⟩⟩

end

theorem normalize_eq_ok : v.normalize = .ok w ↔ Mirrors v w := ⟨mirrors_of_normalize v, Mirrors.normalize⟩

end Success

section Failure

theorem map_eq_error {α β : Type} {x : Except Misuse α} {f : α → β} : x.map f = .error m ↔ x = .error m := by
  cases x with
  | ok a => simp [Except.map]
  | error e => simp [Except.map]

theorem keyText_eq_error : keyText v = .error m ↔ v.isString = false ∧ m = .mapKey v.typeName := by
  cases v <;> simp [keyText, isString, eq_comm]

mutual

theorem exists_bars : ∀ (v : Value), v.normalize = .error m → ∃ u, v.Reaches u ∧ u.Bars m
  | none, h | boolean _, h | integer _, h | number _, h | string _, h => nomatch h
  | list items, h | tuple items, h => by
      obtain ⟨v, hv, u, hu, hbars⟩ := exists_bars_items items (map_eq_error.1 h)
      exact ⟨u, .head hv hu, hbars⟩
  | map entries, h | view entries, h => by
      rcases exists_bars_entries entries (map_eq_error.1 h) with ⟨k, hk, hkey, rfl⟩ | ⟨v, hv, u, hu, hbars⟩
      · exact ⟨_, .refl, .key hk hkey⟩
      · exact ⟨u, .head hv hu, hbars⟩
  | set _, h | frozenSet _, h | bytes _, h | byteArray _, h | unset, h | kind _, h | argument _, h | command _, h
  | routine _, h | thing, h => by
      cases h
      exact ⟨_, .refl, .foreign trivial⟩

theorem exists_bars_items : ∀ (items : List Value), normalizeItems items = .error m →
    ∃ v ∈ items, ∃ u, v.Reaches u ∧ u.Bars m
  | [], h => nomatch h
  | v :: items, h => by
      rcases Checked.bind_eq_error.1 h with h | ⟨w, _, h⟩
      · exact ⟨v, List.mem_cons_self, exists_bars v h⟩
      · rcases Checked.bind_eq_error.1 h with h | ⟨others, _, h⟩
        · obtain ⟨v, hv, hbars⟩ := exists_bars_items items h
          exact ⟨v, List.mem_cons_of_mem _ hv, hbars⟩
        · cases h

theorem exists_bars_entries : ∀ (entries : List (Value × Value)), normalizeEntries entries = .error m →
    (∃ k ∈ entries.map (·.1), k.isString = false ∧ m = .mapKey k.typeName) ∨
      ∃ v ∈ entries.map (·.2), ∃ u, v.Reaches u ∧ u.Bars m
  | [], h => nomatch h
  | (k, v) :: entries, h => by
      rcases Checked.bind_eq_error.1 h with h | ⟨key, _, h⟩
      · exact .inl ⟨k, List.mem_cons_self, keyText_eq_error.1 h⟩
      · rcases Checked.bind_eq_error.1 h with h | ⟨w, _, h⟩
        · exact .inr ⟨v, List.mem_cons_self, exists_bars v h⟩
        · rcases Checked.bind_eq_error.1 h with h | ⟨others, _, h⟩
          · rcases exists_bars_entries entries h with ⟨k, hk, hbars⟩ | ⟨v, hv, hbars⟩
            · exact .inl ⟨k, List.mem_cons_of_mem _ hk, hbars⟩
            · exact .inr ⟨v, List.mem_cons_of_mem _ hv, hbars⟩
          · cases h

end

theorem AllMirror.mem (h : AllMirror items others) (hv : v ∈ items) : ∃ w, Mirrors v w := by
  induction items generalizing others with
  | nil => cases hv
  | cons x items ih =>
      cases h with
      | cons hx hr =>
          rcases List.mem_cons.1 hv with rfl | hv
          · exact ⟨_, hx⟩
          · exact ih hr hv

theorem EntriesMirror.mem {others : List (Value × Value)} {e : Value × Value} (h : EntriesMirror entries others)
    (he : e ∈ entries) : e.1.isString = true ∧ ∃ w, Mirrors e.2 w := by
  induction entries generalizing others with
  | nil => cases he
  | cons x entries ih =>
      cases h with
      | cons hx hr =>
          rcases List.mem_cons.1 he with rfl | he
          · exact ⟨rfl, _, hx⟩
          · exact ih hr he

theorem Mirrors.part (h : Mirrors v w) (hu : u ∈ v.parts) : ∃ x, Mirrors u x := by
  cases h with
  | none | boolean | integer | number | string => cases hu
  | list h | tuple h => exact h.mem hu
  | map h | view h =>
      obtain ⟨e, he, rfl⟩ := List.mem_map.1 hu
      exact (h.mem he).2

theorem Mirrors.reached (h : Mirrors v w) (hu : v.Reaches u) : ∃ x, Mirrors u x := by
  induction hu with
  | refl => exact ⟨w, h⟩
  | tail _ hpart ih =>
      obtain ⟨x, hx⟩ := ih
      exact hx.part hpart

theorem Mirrors.not_bars (h : Mirrors v w) : ¬v.Bars m := by
  rintro (hforeign | ⟨hk, hkey⟩)
  · cases h <;> exact hforeign
  · cases h with
    | none | boolean | integer | number | string | list | tuple => cases hk
    | map h | view h =>
        obtain ⟨e, he, rfl⟩ := List.mem_map.1 hk
        exact absurd (h.mem he).1 (by simp [hkey])

/-- A value is not normalized when something that it reaches bars it, and not otherwise. -/
theorem exists_normalize_eq_error : (∃ m, v.normalize = .error m) ↔ ∃ u m, v.Reaches u ∧ u.Bars m := by
  constructor
  · rintro ⟨m, h⟩
    obtain ⟨u, hu, hbars⟩ := exists_bars v h
    exact ⟨u, m, hu, hbars⟩
  · rintro ⟨u, m, hu, hbars⟩
    cases h : v.normalize with
    | error m => exact ⟨m, rfl⟩
    | ok w =>
        obtain ⟨x, hx⟩ := (normalize_eq_ok.1 h).reached hu
        exact absurd hbars hx.not_bars

end Failure

section Closure

mutual

theorem Mirrors.isDynamic : ∀ {v w}, Mirrors v w → w.IsDynamic
  | _, _, .none => .none
  | _, _, .boolean b => .boolean b
  | _, _, .integer i => .integer i
  | _, _, .number x => .number x
  | _, _, .string s => .string s
  | _, _, .list h | _, _, .tuple h => .list h.allDynamic
  | _, _, .map h | _, _, .view h => .map h.entriesDynamic

theorem AllMirror.allDynamic : ∀ {items others}, AllMirror items others → AllDynamic others
  | _, _, .nil => .nil
  | _, _, .cons hv hr => .cons hv.isDynamic hr.allDynamic

theorem EntriesMirror.entriesDynamic : ∀ {entries others}, EntriesMirror entries others → EntriesDynamic others
  | _, _, .nil => .nil
  | _, _, .cons hv hr => .cons hv.isDynamic hr.entriesDynamic

end

mutual

theorem IsDynamic.mirrors : ∀ {v}, IsDynamic v → Mirrors v v
  | _, .none => .none
  | _, .boolean b => .boolean b
  | _, .integer i => .integer i
  | _, .number x => .number x
  | _, .string s => .string s
  | _, .list h => .list h.allMirror
  | _, .map h => .map h.entriesMirror

theorem AllDynamic.allMirror : ∀ {items}, AllDynamic items → AllMirror items items
  | _, .nil => .nil
  | _, .cons hv hr => .cons hv.mirrors hr.allMirror

theorem EntriesDynamic.entriesMirror : ∀ {entries}, EntriesDynamic entries → EntriesMirror entries entries
  | _, .nil => .nil
  | _, .cons hv hr => .cons hv.mirrors hr.entriesMirror

end

/-- Normalization fails at the foreign values and the keys that a value reaches, and always in the same way. Otherwise
it makes a dynamic value of the same shape. A dynamic value stays as it is, and so does what has been normalized. -/
theorem normalize_closes (v : Value) :
    ((∃ m, v.normalize = .error m) ↔ ∃ u, v.Reaches u ∧ (u.IsForeign ∨ ∃ k ∈ u.keys, k.isString = false)) ∧
    (∀ m, v.normalize = .error m → m.category = .type) ∧
    (∀ w, v.normalize = .ok w → w.IsDynamic ∧ Mirrors v w ∧ w.normalize = .ok w) ∧
    (v.IsDynamic → v.normalize = .ok v) := by
  refine ⟨?_, fun m h => ?_, fun w h => ?_, fun h => h.mirrors.normalize⟩
  · rw [exists_normalize_eq_error]
    constructor
    · rintro ⟨u, m, hu, hforeign | ⟨hk, hkey⟩⟩
      · exact ⟨u, hu, .inl hforeign⟩
      · exact ⟨u, hu, .inr ⟨_, hk, hkey⟩⟩
    · rintro ⟨u, hu, hforeign | ⟨k, hk, hkey⟩⟩
      · exact ⟨u, _, hu, .foreign hforeign⟩
      · exact ⟨u, _, hu, .key hk hkey⟩
  · obtain ⟨u, _, hbars⟩ := exists_bars v h
    exact category_of_bars hbars
  · have hmirrors := normalize_eq_ok.1 h
    exact ⟨hmirrors.isDynamic, hmirrors, hmirrors.isDynamic.mirrors.normalize⟩

/-- Depth makes no difference: a set inside a tuple inside a map, a view inside a tuple, and a list inside a map. -/
theorem normalize_closes_nested :
    (∃ m, (list [map [(string "a", tuple [set []])]]).normalize = .error m ∧ m.category = .type) ∧
    (∃ w, (tuple [view [(string "a", integer 1)]]).normalize = .ok w ∧ w.IsDynamic ∧ w.normalize = .ok w) ∧
    (map [(string "a", list [none])]).normalize = .ok (map [(string "a", list [none])]) := by
  refine ⟨?_, ⟨_, rfl, ?_⟩, ?_⟩
  · obtain ⟨hfails, hcategory, _⟩ := normalize_closes (list [map [(string "a", tuple [set []])]])
    obtain ⟨m, h⟩ := hfails.2 ⟨set [], .head (.head _) (.head (.head _) (.head (.head _) .refl)), .inl trivial⟩
    exact ⟨m, h, hcategory m h⟩
  · obtain ⟨hdynamic, _, hagain⟩ := (normalize_closes (tuple [view [(string "a", integer 1)]])).2.2.1 _ rfl
    exact ⟨hdynamic, hagain⟩
  · exact (normalize_closes _).2.2.2 (.map (.cons (.list (.cons .none .nil)) .nil))

end Closure

end Prompter.Value
