import Mathlib
import OpenApiLint.Proofs.DocumentRead
import OpenApiLint.Yaml.Decoder
import OpenApiLint.Document.Parse
/-!
# Reading maps and lists

A document's maps (its paths, component schemas, a schema's properties and an
operation's responses) and its lists (parameters and enum values) are read by
three combinators of the generic decoder, over the JSON and the YAML
primitives.  A keyed map holds the distinct keys of its entries in the order
they first arrive, each with the value of its last entry; a map that drops
null values holds a key exactly when its last value is not null; a list that
drops null items keeps the others in order; and a null map or list is empty.

JSON is read from compact text, where every key is a string.  YAML is read
event by event: `Yaml.Runs` says what a walk returns and where it stops, and
`Yaml.Entries` and `Yaml.Items` lay out a mapping's entries and a sequence's
items one by one, which the read loops follow with fuel to spare.  A YAML key
is any scalar with a text: null drops its entry, and numbers and booleans are
written out, so `1` and `1.0` are one key.  An integer key outside the 64-bit
ranges has no text, and the whole mapping is refused.

## Main statements

* `Yaml.runAt_entriesLoop`, `Yaml.runAt_itemsLoop` — the read loops, entry by entry.
* `Yaml.Runs.keyedMap`, `Yaml.Runs.nullableMap`, `Yaml.Runs.nullableList` — what
  a mapping or a sequence is read to.
* `Yaml.Fails.keyedMap_wide` — a wide integer key refuses the mapping.
* `maps_keep_first_keys_last_values` — everything together, in both notations.
-/

namespace OpenApiLint

namespace Json

/-! ## Maps and lists in JSON -/

variable {α : Type} {item : Reader α}

/-- An object read as a keyed map: its keys as written, each at its first
place with its last value. -/
theorem reads_keyedMap_obj {es : List (String × Value)} {as : List (String × α)}
    (h : List.Forall₂ (fun kv ka => kv.1 = ka.1 ∧ Reads item kv.2 ka.2) es as) :
    Reads (decoder.keyedMap item) (.obj es) (KeyedList.ofList as) :=
  (reads_optional_some (by simp) (reads_entries h)).bind_pure fun ys => KeyedList.ofList (ys.getD [])

theorem reads_keyedMap_null : Reads (decoder.keyedMap item) .null [] :=
  (reads_optional_null _).bind_pure fun ys => KeyedList.ofList (ys.getD [])

/-- An object read with its null values dropped. -/
theorem reads_nullableMap_obj {es : List (String × Value)} {os : List (String × Option α)}
    (h : List.Forall₂ (fun kv ko => kv.1 = ko.1 ∧ Reads (decoder.optional item) kv.2 ko.2) es os) :
    Reads (decoder.nullableMap item) (.obj es)
      ((KeyedList.ofList os).filterMap fun kv => kv.2.map (kv.1, ·)) :=
  (reads_keyedMap_obj h).bind_pure _

theorem reads_nullableMap_null : Reads (decoder.nullableMap item) .null [] :=
  reads_keyedMap_null.bind_pure _

/-- An array read with its null items dropped. -/
theorem reads_nullableList_arr {vs : List Value} {os : List (Option α)}
    (h : List.Forall₂ (Reads (decoder.optional item)) vs os) :
    Reads (decoder.nullableList item) (.arr vs) (os.filterMap id) :=
  (reads_optional_some (by simp) (reads_list h)).bind_pure _

theorem reads_nullableList_null : Reads (decoder.nullableList item) .null [] :=
  (reads_optional_null _).bind_pure _

end Json

namespace Yaml

variable {α β : Type}

/-! ## Running a walk -/

/-- What a walk returns from scope `s` and cursor `c`, with the cursor after it. -/
def runAt (x : Walk α) (s : Scope) (c : Cursor) : Except Error (α × Cursor) := (x.run s).run c

/-- `x` reads the events of `doc` from `c` to `a` and stops at `c'`, with
`depth` levels of nesting allowed, whatever path it stands at. -/
def Runs (x : Walk α) (doc : Loaded) (depth : Nat) (c : Cursor) (a : α) (c' : Cursor) : Prop :=
  ∀ path, runAt x ⟨doc, path, depth⟩ c = .ok (a, c')

section Run

variable {s : Scope} {c : Cursor}

theorem runAt_bind (x : Walk α) (f : α → Walk β) :
    runAt (x >>= f) s c = (runAt x s c).bind fun p => runAt (f p.1) s p.2 := rfl

theorem runAt_read : runAt read s c = .ok (s, c) := rfl

theorem runAt_get : runAt get s c = .ok (c, c) := rfl

theorem runAt_bind_of_ok {x : Walk α} {f : α → Walk β} {a : α} {c' : Cursor}
    (h : runAt x s c = .ok (a, c')) : runAt (x >>= f) s c = runAt (f a) s c' := by
  rw [runAt_bind, h]
  rfl

theorem runAt_peekEvent {e : Node × Mark} (h : s.doc.events[c.pos]? = some e) :
    runAt peekEvent s c = .ok (e, c) := by
  simp only [peekEvent, runAt_bind, runAt_read, runAt_get, Except.bind, h]
  rfl

theorem runAt_nextEvent {e : Node × Mark} (h : s.doc.events[c.pos]? = some e) :
    runAt nextEvent s c = .ok (e, { c with pos := c.pos + 1 }) := by
  rw [nextEvent, runAt_bind_of_ok (runAt_peekEvent h)]
  rfl

/-- Giving an error its place changes nothing on success. -/
theorem runAt_placed {x : Walk α} {r : α × Cursor} (m : Mark) (h : runAt x s c = .ok r) :
    runAt (placed m x) s c = .ok r := by
  rw [placed, runAt_bind_of_ok runAt_read]
  show Except.tryCatch (runAt x s c) _ = _
  rw [h]
  rfl

theorem runAt_nested {x : Walk α} {d : Nat} (m : Mark) (hd : s.depth = d + 1) :
    runAt (nested m x) s c = runAt x { s with depth := d } c := by
  rw [nested, runAt_bind_of_ok runAt_read]
  simp only [hd, Nat.add_eq_zero_iff, one_ne_zero, and_false, beq_iff_eq, if_false,
    Nat.add_sub_cancel]
  rfl

/-- Taking a node that is no alias reads on from its first event. -/
theorem runAt_withNode {k : Node → Mark → Walk α} {ev : Node} {m : Mark}
    (h : s.doc.events[c.pos]? = some (ev, m)) (hev : ∀ t, ev ≠ .alias t) :
    runAt (withNode k) s c = runAt (k ev m) s { c with pos := c.pos + 1 } := by
  rw [withNode, runAt_bind_of_ok (runAt_nextEvent h)]
  cases ev
  case «alias» t => exact absurd rfl (hev t)
  all_goals rfl

theorem pos_lt_size {doc : Loaded} {e : Node × Mark} (h : doc.events[c.pos]? = some e) :
    c.pos < doc.events.size :=
  (Array.getElem?_eq_some_iff.1 h).1

end Run

namespace Runs

variable {doc : Loaded} {depth : Nat} {c c₁ c₂ : Cursor}

theorem pure (a : α) : Runs (Pure.pure a) doc depth c a c := fun _ => rfl

theorem bind {x : Walk α} {f : α → Walk β} {a : α} {b : β} (hx : Runs x doc depth c a c₁)
    (hf : Runs (f a) doc depth c₁ b c₂) : Runs (x >>= f) doc depth c b c₂ := fun path => by
  rw [runAt_bind_of_ok (hx path), hf path]

theorem map {x : Walk α} {a : α} (hx : Runs x doc depth c a c₁) (f : α → β) :
    Runs (f <$> x) doc depth c (f a) c₁ := fun path => by
  show runAt (x >>= fun y => Pure.pure (f y)) _ c = _
  rw [runAt_bind_of_ok (hx path)]
  rfl

theorem under {x : Walk α} {a : α} (hx : Runs x doc depth c a c₁) (step : Path → Path) :
    Runs (Yaml.under step x) doc depth c a c₁ := fun path => hx (step path)

theorem placed {x : Walk α} {a : α} (hx : Runs x doc depth c a c₁) (m : Mark) :
    Runs (Yaml.placed m x) doc depth c a c₁ := fun path => runAt_placed m (hx path)

theorem nested {x : Walk α} {a : α} (hx : Runs x doc depth c a c₁) (m : Mark) :
    Runs (Yaml.nested m x) doc (depth + 1) c a c₁ := fun path => by
  rw [runAt_nested m rfl]
  exact hx path

theorem withNode {k : Node → Mark → Walk α} {ev : Node} {m : Mark} {a : α}
    (h : doc.events[c.pos]? = some (ev, m)) (hev : ∀ t, ev ≠ .alias t)
    (hk : Runs (k ev m) doc depth { c with pos := c.pos + 1 } a c₁) :
    Runs (Yaml.withNode k) doc depth c a c₁ := fun path => by
  rw [runAt_withNode h hev]
  exact hk path

theorem nextEvent {e : Node × Mark} (h : doc.events[c.pos]? = some e) :
    Runs Yaml.nextEvent doc depth c e { c with pos := c.pos + 1 } := fun _ => runAt_nextEvent h

end Runs

/-! ## Keys and ends -/

/-- An event that neither ends the mapping or sequence being read nor stands
for no content. -/
def Node.Continues (ev : Node) : Prop := ev ≠ .mappingEnd ∧ ev ≠ .sequenceEnd ∧ ev ≠ .void

/-- A mapping key the reader takes, normalized to `k`: a scalar not marked as
an enum variant whose resolved value has a text (`none` for null). -/
inductive KeyEvent : Node → Option String → Prop
  | scalar {tag : Option (List UInt8)} {text : String} {style : ScalarStyle} {s : Scalar}
      {k : Option String} : isVariantTag tag = false → resolveScalar tag text style = .ok s →
      s.normalized = some k → KeyEvent (.scalar tag text style) k

/-- Every resolved scalar has a text except an integer outside the 64-bit
ranges. -/
theorem Scalar.normalized_eq_none_iff (s : Scalar) : s.normalized = none ↔ ∃ n u, s = .wide n u := by
  cases s <;> simp [Scalar.normalized]

theorem KeyEvent.continues {ev : Node} {k : Option String} (h : KeyEvent ev k) : ev.Continues := by
  cases h
  exact ⟨nofun, nofun, nofun⟩

namespace Runs

variable {doc : Loaded} {depth : Nat} {c : Cursor} {ev : Node} {m : Mark}

theorem atEnd_of_continues (h : doc.events[c.pos]? = some (ev, m)) (hev : ev.Continues) :
    Runs Yaml.atEnd doc depth c false c := fun path => by
  rw [Yaml.atEnd, runAt_bind_of_ok (runAt_peekEvent h)]
  obtain ⟨hm, hs, hv⟩ := hev
  cases ev
  case mappingEnd => exact absurd rfl hm
  case sequenceEnd => exact absurd rfl hs
  case void => exact absurd rfl hv
  all_goals rfl

theorem atEnd_mappingEnd (h : doc.events[c.pos]? = some (.mappingEnd, m)) :
    Runs Yaml.atEnd doc depth c true c := fun path => by
  rw [Yaml.atEnd, runAt_bind_of_ok (runAt_peekEvent h)]
  rfl

theorem atEnd_sequenceEnd (h : doc.events[c.pos]? = some (.sequenceEnd, m)) :
    Runs Yaml.atEnd doc depth c true c := fun path => by
  rw [Yaml.atEnd, runAt_bind_of_ok (runAt_peekEvent h)]
  rfl

theorem keyText {tag : Option (List UInt8)} {text : String} {style : ScalarStyle}
    (h : doc.events[c.pos]? = some (.scalar tag text style, m)) :
    Runs Yaml.keyText? doc depth c (some text) c := fun path => by
  rw [Yaml.keyText?, runAt_bind_of_ok (runAt_peekEvent h)]
  rfl

/-- A key the reader takes is read to its normalized text. -/
theorem scalarText {k : Option String} (h : doc.events[c.pos]? = some (ev, m)) (hk : KeyEvent ev k) :
    Runs Yaml.scalarText doc depth c k { c with pos := c.pos + 1 } := by
  cases hk with
  | scalar hv hr hn =>
    refine Runs.withNode h nofun (Runs.placed (fun path => ?_) m)
    simp only [hv, hr, hn, Bool.false_eq_true, if_false]
    rfl

end Runs

/-! ## Mappings -/

/-- The entries that have a key: a null key drops its entry. -/
def dropNullKeys (kvs : List (Option String × α)) : List (String × α) :=
  kvs.filterMap fun e => e.1.map (·, e.2)

@[simp] theorem dropNullKeys_nil : dropNullKeys ([] : List (Option String × α)) = [] := rfl

@[simp] theorem dropNullKeys_cons_some (k : String) (a : α) (kvs : List (Option String × α)) :
    dropNullKeys ((some k, a) :: kvs) = (k, a) :: dropNullKeys kvs := rfl

@[simp] theorem dropNullKeys_cons_none (a : α) (kvs : List (Option String × α)) :
    dropNullKeys ((none, a) :: kvs) = dropNullKeys kvs := rfl

theorem dropNullKeys_eq_nil {kvs : List (Option String × α)} (h : ∀ e ∈ kvs, e.1 = none) :
    dropNullKeys kvs = [] := by
  simp only [dropNullKeys, List.filterMap_eq_nil_iff]
  intro e he
  simp [h e he]

/-- The entries of a mapping from `c` up to `c'`: each a key the reader takes
to `k`, and a value that `item` reads after it. -/
inductive Entries (item : Walk α) (doc : Loaded) (depth : Nat) :
    Cursor → List (Option String × α) → Cursor → Prop
  | nil (c : Cursor) : Entries item doc depth c [] c
  | cons {c c₁ c₂ : Cursor} {ev : Node} {m : Mark} {k : Option String} {a : α}
      {rest : List (Option String × α)} :
      doc.events[c.pos]? = some (ev, m) → KeyEvent ev k →
      Runs item doc depth { c with pos := c.pos + 1 } a c₁ → c.pos < c₁.pos →
      Entries item doc depth c₁ rest c₂ → Entries item doc depth c ((k, a) :: rest) c₂

section Entries

variable {item : Walk α} {doc : Loaded} {depth : Nat} {c c' : Cursor}
  {kvs : List (Option String × α)}

/-- Each entry takes at least its key's event. -/
theorem Entries.pos_add_length_le (h : Entries item doc depth c kvs c') :
    c.pos + kvs.length ≤ c'.pos := by
  induction h with
  | nil => simp
  | cons _ _ _ hlt _ ih =>
    simp only [List.length_cons] at ih ⊢
    omega

/-- The entries end before the last event. -/
theorem Entries.length_lt_size {e : Node × Mark} (h : Entries item doc depth c kvs c')
    (hend : doc.events[c'.pos]? = some e) : kvs.length < doc.events.size := by
  have hle := h.pos_add_length_le
  have hlt := pos_lt_size hend
  omega

/-- Reading entries goes on after them, with those that have a key added:
one round of the loop per entry. -/
theorem runAt_entriesLoop (h : Entries item doc depth c kvs c') (path : Path) (n : Nat)
    (acc : Array (String × α)) :
    runAt (entriesLoop item (n + kvs.length) acc) ⟨doc, path, depth⟩ c =
      runAt (entriesLoop item n (acc ++ (dropNullKeys kvs).toArray)) ⟨doc, path, depth⟩ c' := by
  induction h generalizing acc with
  | nil c => simp
  | @cons c c₁ c₂ ev m k a rest hev hkey hitem _ _ ih =>
    obtain ⟨text, hkeyText⟩ : ∃ text, Runs keyText? doc depth c (some text) c := by
      cases hkey
      exact ⟨_, Runs.keyText hev⟩
    rw [List.length_cons, ← Nat.add_assoc, entriesLoop,
      runAt_bind_of_ok ((Runs.atEnd_of_continues hev hkey.continues) path)]
    simp only [Bool.false_eq_true, if_false]
    rw [runAt_bind_of_ok (hkeyText path), runAt_bind_of_ok (Runs.scalarText hev hkey path),
      runAt_bind_of_ok ((hitem.under _) path), ih]
    -- the entry is added exactly when its key is not null
    cases k <;> simp

theorem runAt_entriesLoop_mappingEnd {m : Mark} (hend : doc.events[c.pos]? = some (.mappingEnd, m))
    (path : Path) (n : Nat) (acc : Array (String × α)) :
    runAt (entriesLoop item (n + 1) acc) ⟨doc, path, depth⟩ c = .ok (acc, c) := by
  rw [entriesLoop, runAt_bind_of_ok (Runs.atEnd_mappingEnd hend path)]
  rfl

/-- **A mapping is read to its entries that have a key**, in order. -/
theorem Runs.entries {tag : Option (List UInt8)} {m m' : Mark}
    (hstart : doc.events[c.pos]? = some (.mappingStart tag, m))
    (h : Entries item doc depth { c with pos := c.pos + 1 } kvs c')
    (hend : doc.events[c'.pos]? = some (.mappingEnd, m')) :
    Runs (Yaml.entries item) doc (depth + 1) c (dropNullKeys kvs) { c' with pos := c'.pos + 1 } := by
  -- the loop has fuel for every entry and the end
  obtain ⟨j, hj⟩ : ∃ j, doc.events.size + 1 = j + 1 + kvs.length :=
    ⟨doc.events.size - kvs.length, by have := h.length_lt_size hend; omega⟩
  have hloop : Runs (do entriesLoop item ((← read).doc.events.size + 1) #[]) doc depth
      { c with pos := c.pos + 1 } (#[] ++ (dropNullKeys kvs).toArray) c' := fun path => by
    rw [runAt_bind_of_ok runAt_read]
    dsimp only
    rw [hj, runAt_entriesLoop h path, runAt_entriesLoop_mappingEnd hend]
  refine Runs.withNode hstart nofun (Runs.placed ((hloop.nested m).bind ?_) m)
  refine Runs.bind (Runs.nextEvent hend) ?_
  simpa using Runs.pure (dropNullKeys kvs)

end Entries

/-! ## Sequences -/

/-- The items of a sequence from `c` up to `c'`, each read by `item`. -/
inductive Items (item : Walk α) (doc : Loaded) (depth : Nat) : Cursor → List α → Cursor → Prop
  | nil (c : Cursor) : Items item doc depth c [] c
  | cons {c c₁ c₂ : Cursor} {ev : Node} {m : Mark} {a : α} {rest : List α} :
      doc.events[c.pos]? = some (ev, m) → ev.Continues → Runs item doc depth c a c₁ →
      c.pos < c₁.pos → Items item doc depth c₁ rest c₂ → Items item doc depth c (a :: rest) c₂

section Items

variable {item : Walk α} {doc : Loaded} {depth : Nat} {c c' : Cursor} {as : List α}

/-- Each item takes at least one event. -/
theorem Items.pos_add_length_le (h : Items item doc depth c as c') : c.pos + as.length ≤ c'.pos := by
  induction h with
  | nil => simp
  | cons _ _ _ hlt _ ih =>
    simp only [List.length_cons] at ih ⊢
    omega

/-- The items end before the last event. -/
theorem Items.length_lt_size {e : Node × Mark} (h : Items item doc depth c as c')
    (hend : doc.events[c'.pos]? = some e) : as.length < doc.events.size := by
  have hle := h.pos_add_length_le
  have hlt := pos_lt_size hend
  omega

/-- Reading items goes on after them, with them added and counted: one round
of the loop per item. -/
theorem runAt_itemsLoop (h : Items item doc depth c as c') (path : Path) (n i : Nat)
    (acc : Array α) :
    runAt (itemsLoop item (n + as.length) i acc) ⟨doc, path, depth⟩ c =
      runAt (itemsLoop item n (i + as.length) (acc ++ as.toArray)) ⟨doc, path, depth⟩ c' := by
  induction h generalizing i acc with
  | nil c => simp
  | @cons c c₁ c₂ ev m a rest hev hcont hitem _ _ ih =>
    rw [List.length_cons, ← Nat.add_assoc, itemsLoop,
      runAt_bind_of_ok ((Runs.atEnd_of_continues hev hcont) path)]
    simp only [Bool.false_eq_true, if_false]
    rw [runAt_bind_of_ok ((hitem.under _) path), ih]
    simp [Nat.add_assoc, Nat.add_comm 1]

theorem runAt_itemsLoop_sequenceEnd {m : Mark} (hend : doc.events[c.pos]? = some (.sequenceEnd, m))
    (path : Path) (n i : Nat) (acc : Array α) :
    runAt (itemsLoop item (n + 1) i acc) ⟨doc, path, depth⟩ c = .ok (acc, c) := by
  rw [itemsLoop, runAt_bind_of_ok (Runs.atEnd_sequenceEnd hend path)]
  rfl

/-- **A sequence is read to its items**, in order. -/
theorem Runs.list {tag : Option (List UInt8)} {m m' : Mark}
    (hstart : doc.events[c.pos]? = some (.sequenceStart tag, m))
    (h : Items item doc depth { c with pos := c.pos + 1 } as c')
    (hend : doc.events[c'.pos]? = some (.sequenceEnd, m')) :
    Runs (Yaml.list item) doc (depth + 1) c as { c' with pos := c'.pos + 1 } := by
  -- the loop has fuel for every item and the end
  obtain ⟨j, hj⟩ : ∃ j, doc.events.size + 1 = j + 1 + as.length :=
    ⟨doc.events.size - as.length, by have := h.length_lt_size hend; omega⟩
  have hloop : Runs (do itemsLoop item ((← read).doc.events.size + 1) 0 #[]) doc depth
      { c with pos := c.pos + 1 } (#[] ++ as.toArray) c' := fun path => by
    rw [runAt_bind_of_ok runAt_read]
    dsimp only
    rw [hj, runAt_itemsLoop h path, runAt_itemsLoop_sequenceEnd hend]
  refine Runs.withNode hstart nofun (Runs.placed ((hloop.nested m).bind ?_) m)
  refine Runs.bind (Runs.nextEvent hend) ?_
  simpa using Runs.pure as

end Items

/-! ## Nodes that may be null -/

/-- A node that `optional` reads as null: no content, a plain scalar that is
empty or spells null, or one that spells null under the null tag. -/
inductive NullNode : Node → Prop
  | void : NullNode .void
  | plain {text : String} : (text.isEmpty || isNullWord text) = true →
      NullNode (.scalar none text .plain)
  | tagged {text : String} : isNullWord text = true →
      NullNode (.scalar (some (coreTag "null")) text .plain)

/-- A node that `optional` reads as present: a mapping, a sequence, a scalar
that is not plain, a plain scalar under a tag other than null, or an untagged
plain scalar that is neither empty nor spells null. -/
inductive PresentNode : Node → Prop
  | mapping (tag : Option (List UInt8)) : PresentNode (.mappingStart tag)
  | sequence (tag : Option (List UInt8)) : PresentNode (.sequenceStart tag)
  | styled {tag : Option (List UInt8)} {text : String} {style : ScalarStyle} :
      style ≠ .plain → PresentNode (.scalar tag text style)
  | tagged {t : List UInt8} {text : String} : t ≠ coreTag "null" →
      PresentNode (.scalar (some t) text .plain)
  | plain {text : String} : (!text.isEmpty && !isNullWord text) = true →
      PresentNode (.scalar none text .plain)

section Optional

variable {x : Walk α} {doc : Loaded} {depth : Nat} {c c' : Cursor} {ev : Node} {m : Mark}

/-- **A null node is read as `none`**, past its one event. -/
theorem Runs.optional_null (h : doc.events[c.pos]? = some (ev, m)) (hn : NullNode ev) :
    Runs (Yaml.optional x) doc depth c none { c with pos := c.pos + 1 } := fun path => by
  rw [Yaml.optional, runAt_bind_of_ok (runAt_peekEvent h)]
  cases hn with
  | void => rfl
  | @plain text hp =>
    have hb : (!text.isEmpty && !isNullWord text) = false := by
      rw [← Bool.not_or, hp, Bool.not_true]
    simp only [hb]
    rfl
  | tagged hp =>
    simp only [hp, beq_self_eq_true, if_true]
    rfl


/-- A present node is read by the reader it is optional to. -/
theorem runAt_optional_present {s : Scope} (h : s.doc.events[c.pos]? = some (ev, m))
    (hp : PresentNode ev) : runAt (Yaml.optional x) s c = runAt (some <$> x) s c := by
  rw [Yaml.optional, runAt_bind_of_ok (runAt_peekEvent h)]
  cases hp with
  | mapping => rfl
  | sequence => rfl
  | @styled tag text style hs =>
    cases style
    case plain => exact absurd rfl hs
    all_goals rfl
  | tagged ht =>
    simp only [beq_iff_eq, ht, if_false]
    rfl
  | plain hp =>
    simp only [hp]
    rfl

/-- **A present node is read by the reader it is optional to**, as `some`. -/
theorem Runs.optional_some {a : α} (h : doc.events[c.pos]? = some (ev, m)) (hp : PresentNode ev)
    (hx : Runs x doc depth c a c') : Runs (Yaml.optional x) doc depth c (some a) c' := fun path => by
  rw [runAt_optional_present h hp]
  exact (hx.map some) path

end Optional

/-! ## The maps and lists of a document -/

section Decoded

variable {item : Walk α} {doc : Loaded} {depth : Nat} {c c' : Cursor} {ev : Node}
  {tag : Option (List UInt8)} {m m' : Mark}

/-- A mapping read as a keyed map: its entries that have a key, each key at
its first place with its last value. -/
theorem Runs.keyedMap {kvs : List (Option String × α)}
    (hstart : doc.events[c.pos]? = some (.mappingStart tag, m))
    (h : Entries item doc depth { c with pos := c.pos + 1 } kvs c')
    (hend : doc.events[c'.pos]? = some (.mappingEnd, m')) :
    Runs (decoder.keyedMap item) doc (depth + 1) c (KeyedList.ofList (dropNullKeys kvs))
      { c' with pos := c'.pos + 1 } :=
  (Runs.optional_some hstart (.mapping tag) (Runs.entries hstart h hend)).bind (Runs.pure _)

theorem Runs.keyedMap_null (h : doc.events[c.pos]? = some (ev, m)) (hn : NullNode ev) :
    Runs (decoder.keyedMap item) doc depth c [] { c with pos := c.pos + 1 } :=
  (Runs.optional_null h hn).bind (Runs.pure _)

/-- A mapping whose keys are all null reads as an empty map. -/
theorem Runs.keyedMap_nullKeys {kvs : List (Option String × α)}
    (hstart : doc.events[c.pos]? = some (.mappingStart tag, m))
    (h : Entries item doc depth { c with pos := c.pos + 1 } kvs c')
    (hend : doc.events[c'.pos]? = some (.mappingEnd, m')) (hnull : ∀ e ∈ kvs, e.1 = none) :
    Runs (decoder.keyedMap item) doc (depth + 1) c [] { c' with pos := c'.pos + 1 } := by
  have hrun := Runs.keyedMap hstart h hend
  rwa [dropNullKeys_eq_nil hnull] at hrun

/-- A mapping read with its null values dropped. -/
theorem Runs.nullableMap {kvs : List (Option String × Option α)}
    (hstart : doc.events[c.pos]? = some (.mappingStart tag, m))
    (h : Entries (decoder.optional item) doc depth { c with pos := c.pos + 1 } kvs c')
    (hend : doc.events[c'.pos]? = some (.mappingEnd, m')) :
    Runs (decoder.nullableMap item) doc (depth + 1) c
      ((KeyedList.ofList (dropNullKeys kvs)).filterMap fun kv => kv.2.map (kv.1, ·))
      { c' with pos := c'.pos + 1 } :=
  (Runs.keyedMap hstart h hend).bind (Runs.pure _)

theorem Runs.nullableMap_null (h : doc.events[c.pos]? = some (ev, m)) (hn : NullNode ev) :
    Runs (decoder.nullableMap item) doc depth c [] { c with pos := c.pos + 1 } :=
  (Runs.keyedMap_null h hn).bind (Runs.pure _)

/-- A sequence read with its null items dropped. -/
theorem Runs.nullableList {os : List (Option α)}
    (hstart : doc.events[c.pos]? = some (.sequenceStart tag, m))
    (h : Items (decoder.optional item) doc depth { c with pos := c.pos + 1 } os c')
    (hend : doc.events[c'.pos]? = some (.sequenceEnd, m')) :
    Runs (decoder.nullableList item) doc (depth + 1) c (os.filterMap id)
      { c' with pos := c'.pos + 1 } :=
  (Runs.optional_some hstart (.sequence tag) (Runs.list hstart h hend)).bind (Runs.pure _)

theorem Runs.nullableList_null (h : doc.events[c.pos]? = some (ev, m)) (hn : NullNode ev) :
    Runs (decoder.nullableList item) doc depth c [] { c with pos := c.pos + 1 } :=
  (Runs.optional_null h hn).bind (Runs.pure _)

end Decoded

/-! ## Keys the reader refuses

An integer key outside the 64-bit ranges has no text, so reading refuses the
whole mapping, whatever the entries before it and the values around it. -/

/-- `x` fails from `c`, with `depth` levels of nesting allowed, whatever path
it stands at. -/
def Fails (x : Walk α) (doc : Loaded) (depth : Nat) (c : Cursor) : Prop :=
  ∀ path, ∃ e, runAt x ⟨doc, path, depth⟩ c = .error e

section Refused

variable {doc : Loaded} {depth : Nat} {c c₁ : Cursor} {ev : Node} {m : Mark}

theorem runAt_bind_of_error {s : Scope} {x : Walk α} {f : α → Walk β} {e : Error}
    (h : runAt x s c = .error e) : runAt (x >>= f) s c = .error e := by
  rw [runAt_bind, h]
  rfl

theorem Fails.bind {x : Walk α} (hx : Fails x doc depth c) (f : α → Walk β) :
    Fails (x >>= f) doc depth c := fun path => by
  obtain ⟨e, he⟩ := hx path
  exact ⟨e, runAt_bind_of_error he⟩

theorem Fails.map {x : Walk α} (hx : Fails x doc depth c) (f : α → β) :
    Fails (f <$> x) doc depth c := fun path => by
  obtain ⟨e, he⟩ := hx path
  exact ⟨e, runAt_bind_of_error (f := fun y => Pure.pure (f y)) he⟩

/-- Giving an error its place keeps it an error. -/
theorem Fails.placed {x : Walk α} (hx : Fails x doc depth c) (m : Mark) :
    Fails (Yaml.placed m x) doc depth c := fun path => by
  obtain ⟨e, he⟩ := hx path
  rw [Yaml.placed, runAt_bind_of_ok runAt_read]
  show ∃ e', Except.tryCatch (runAt x _ c) _ = .error e'
  rw [he]
  dsimp only [Except.tryCatch]
  split <;> exact ⟨_, rfl⟩

theorem Fails.nested {x : Walk α} (hx : Fails x doc depth c) (m : Mark) :
    Fails (Yaml.nested m x) doc (depth + 1) c := fun path => by
  rw [runAt_nested m rfl]
  exact hx path

theorem Fails.withNode {k : Node → Mark → Walk α} (h : doc.events[c.pos]? = some (ev, m))
    (hev : ∀ t, ev ≠ .alias t) (hk : Fails (k ev m) doc depth { c with pos := c.pos + 1 }) :
    Fails (Yaml.withNode k) doc depth c := fun path => by
  rw [runAt_withNode h hev]
  exact hk path

theorem Fails.optional_present {x : Walk α} (h : doc.events[c.pos]? = some (ev, m))
    (hp : PresentNode ev) (hx : Fails x doc depth c) : Fails (Yaml.optional x) doc depth c :=
  fun path => by
  rw [runAt_optional_present h hp]
  exact hx.map some path

variable {tag : Option (List UInt8)} {text : String} {style : ScalarStyle} {n : Int} {u : Bool}

/-- A key that resolves to a wide integer has no text. -/
theorem Fails.scalarText_wide (h : doc.events[c.pos]? = some (.scalar tag text style, m))
    (hv : isVariantTag tag = false) (hr : resolveScalar tag text style = .ok (.wide n u)) :
    Fails scalarText doc depth c := by
  refine Fails.withNode h nofun (Fails.placed (fun path => ?_) m)
  simp only [hv, hr, Bool.false_eq_true, if_false]
  exact ⟨_, rfl⟩

/-- Entries followed by a wide integer key are refused. -/
theorem Fails.entriesLoop_wide {item : Walk α} {kvs : List (Option String × α)}
    (h : Entries item doc depth c kvs c₁)
    (hk : doc.events[c₁.pos]? = some (.scalar tag text style, m))
    (hv : isVariantTag tag = false) (hr : resolveScalar tag text style = .ok (.wide n u))
    (j : Nat) (acc : Array (String × α)) :
    Fails (entriesLoop item (j + 1 + kvs.length) acc) doc depth c := fun path => by
  rw [runAt_entriesLoop h path, entriesLoop,
    runAt_bind_of_ok ((Runs.atEnd_of_continues hk ⟨nofun, nofun, nofun⟩) path)]
  simp only [Bool.false_eq_true, if_false]
  rw [runAt_bind_of_ok ((Runs.keyText hk) path)]
  exact (Fails.scalarText_wide hk hv hr).bind _ path

/-- **A mapping with a wide integer key is refused**, after any entries. -/
theorem Fails.keyedMap_wide {item : Walk α} {kvs : List (Option String × α)}
    {tag₀ : Option (List UInt8)} {m₀ : Mark}
    (hstart : doc.events[c.pos]? = some (.mappingStart tag₀, m₀))
    (h : Entries item doc depth { c with pos := c.pos + 1 } kvs c₁)
    (hk : doc.events[c₁.pos]? = some (.scalar tag text style, m))
    (hv : isVariantTag tag = false) (hr : resolveScalar tag text style = .ok (.wide n u)) :
    Fails (decoder.keyedMap item) doc (depth + 1) c := by
  -- the loop reaches the refused key
  obtain ⟨j, hj⟩ : ∃ j, doc.events.size + 1 = j + 1 + kvs.length :=
    ⟨doc.events.size - kvs.length, by have := h.length_lt_size hk; omega⟩
  have hloop : Fails (do entriesLoop item ((← read).doc.events.size + 1) #[]) doc depth
      { c with pos := c.pos + 1 } := fun path => by
    rw [runAt_bind_of_ok runAt_read]
    dsimp only
    rw [hj]
    exact Fails.entriesLoop_wide h hk hv hr j #[] path
  have hentries : Fails (entries item) doc (depth + 1) c :=
    Fails.withNode hstart nofun (Fails.placed ((hloop.nested m₀).bind _) m₀)
  exact (Fails.optional_present hstart (.mapping _) hentries).bind _

end Refused

end Yaml

/-- **How the maps and lists of a document are read.**  A JSON object, or a
YAML mapping whose keys are scalars with a text, is read as a keyed map: the
distinct keys of its entries in the order they first arrive, each with the
value of its last entry.  A null key drops its own entry; a map that drops
null values holds a key exactly when its last value is not null, and one
that keeps them keeps it.  A list that drops null items keeps the others in
order, and a null map or list is empty.  Every YAML scalar has a text but an
integer outside the 64-bit ranges, and a mapping with such a key is
refused, whatever the entries before it. -/
theorem maps_keep_first_keys_last_values {α : Type} (item : Json.Reader α) (walk : Yaml.Walk α) :
    (∀ (es : List (String × Value)) (as : List (String × α)),
      List.Forall₂ (fun kv ka => kv.1 = ka.1 ∧ Json.Reads item kv.2 ka.2) es as →
      ∃ r, Json.Reads (Json.decoder.keyedMap item) (.obj es) r ∧
        KeyedList.FirstKeysLastValues as r) ∧
    (∀ (es : List (String × Value)) (os : List (String × Option α)),
      List.Forall₂ (fun kv ko => kv.1 = ko.1 ∧ Json.Reads (Json.decoder.optional item) kv.2 ko.2)
        es os →
      ∃ r, Json.Reads (Json.decoder.nullableMap item) (.obj es) r ∧
        KeyedList.LastValuesPresent os r) ∧
    (∀ (vs : List Value) (os : List (Option α)),
      List.Forall₂ (Json.Reads (Json.decoder.optional item)) vs os →
      Json.Reads (Json.decoder.nullableList item) (.arr vs) (os.filterMap id)) ∧
    (Json.Reads (Json.decoder.keyedMap item) .null [] ∧
      Json.Reads (Json.decoder.nullableMap item) .null [] ∧
      Json.Reads (Json.decoder.nullableList item) .null []) ∧
    (Json.Reads (Json.decoder.optional item) .null none ∧
      ∀ v a, v ≠ .null → Json.Reads item v a → Json.Reads (Json.decoder.optional item) v (some a)) ∧
    (∀ (doc : Yaml.Loaded) (depth : Nat) (c c' : Yaml.Cursor) (tag : Option (List UInt8))
      (m m' : Yaml.Mark) (kvs : List (Option String × α)),
      doc.events[c.pos]? = some (.mappingStart tag, m) →
      Yaml.Entries walk doc depth { c with pos := c.pos + 1 } kvs c' →
      doc.events[c'.pos]? = some (.mappingEnd, m') →
      ∃ r, Yaml.Runs (Yaml.decoder.keyedMap walk) doc (depth + 1) c r
          { c' with pos := c'.pos + 1 } ∧
        KeyedList.FirstKeysLastValues (Yaml.dropNullKeys kvs) r) ∧
    (∀ (doc : Yaml.Loaded) (depth : Nat) (c c' : Yaml.Cursor) (tag : Option (List UInt8))
      (m m' : Yaml.Mark) (kvs : List (Option String × Option α)),
      doc.events[c.pos]? = some (.mappingStart tag, m) →
      Yaml.Entries (Yaml.decoder.optional walk) doc depth { c with pos := c.pos + 1 } kvs c' →
      doc.events[c'.pos]? = some (.mappingEnd, m') →
      ∃ r, Yaml.Runs (Yaml.decoder.nullableMap walk) doc (depth + 1) c r
          { c' with pos := c'.pos + 1 } ∧
        KeyedList.LastValuesPresent (Yaml.dropNullKeys kvs) r) ∧
    (∀ (doc : Yaml.Loaded) (depth : Nat) (c c' : Yaml.Cursor) (tag : Option (List UInt8))
      (m m' : Yaml.Mark) (os : List (Option α)),
      doc.events[c.pos]? = some (.sequenceStart tag, m) →
      Yaml.Items (Yaml.decoder.optional walk) doc depth { c with pos := c.pos + 1 } os c' →
      doc.events[c'.pos]? = some (.sequenceEnd, m') →
      Yaml.Runs (Yaml.decoder.nullableList walk) doc (depth + 1) c (os.filterMap id)
        { c' with pos := c'.pos + 1 }) ∧
    (∀ (doc : Yaml.Loaded) (depth : Nat) (c : Yaml.Cursor) (ev : Yaml.Node) (m : Yaml.Mark),
      doc.events[c.pos]? = some (ev, m) → Yaml.NullNode ev →
      Yaml.Runs (Yaml.decoder.keyedMap walk) doc depth c [] { c with pos := c.pos + 1 } ∧
      Yaml.Runs (Yaml.decoder.nullableMap walk) doc depth c [] { c with pos := c.pos + 1 } ∧
      Yaml.Runs (Yaml.decoder.nullableList walk) doc depth c [] { c with pos := c.pos + 1 } ∧
      Yaml.Runs (Yaml.decoder.optional walk) doc depth c none { c with pos := c.pos + 1 }) ∧
    (∀ (doc : Yaml.Loaded) (depth : Nat) (c c' : Yaml.Cursor) (ev : Yaml.Node) (m : Yaml.Mark)
      (a : α), doc.events[c.pos]? = some (ev, m) → Yaml.PresentNode ev →
      Yaml.Runs walk doc depth c a c' → Yaml.Runs (Yaml.decoder.optional walk) doc depth c (some a) c') ∧
    (∀ s : Yaml.Scalar, s.normalized = none ↔ ∃ n u, s = .wide n u) ∧
    (∀ (doc : Yaml.Loaded) (depth : Nat) (c c₁ : Yaml.Cursor) (tag₀ : Option (List UInt8))
      (m₀ : Yaml.Mark) (kvs : List (Option String × α)) (tag : Option (List UInt8)) (text : String)
      (style : Yaml.ScalarStyle) (m : Yaml.Mark) (n : Int) (u : Bool),
      doc.events[c.pos]? = some (.mappingStart tag₀, m₀) →
      Yaml.Entries walk doc depth { c with pos := c.pos + 1 } kvs c₁ →
      doc.events[c₁.pos]? = some (.scalar tag text style, m) → Yaml.isVariantTag tag = false →
      Yaml.resolveScalar tag text style = .ok (.wide n u) →
      Yaml.Fails (Yaml.decoder.keyedMap walk) doc (depth + 1) c) := by
  refine ⟨fun es as h => ⟨_, Json.reads_keyedMap_obj h, KeyedList.firstKeysLastValues_ofList as⟩,
    fun es os h => ⟨_, Json.reads_nullableMap_obj h, KeyedList.lastValuesPresent_ofList os⟩,
    fun vs os h => Json.reads_nullableList_arr h,
    ⟨Json.reads_keyedMap_null, Json.reads_nullableMap_null, Json.reads_nullableList_null⟩,
    ⟨Json.reads_optional_null item, fun v a hv ha => Json.reads_optional_some hv ha⟩, ?_, ?_, ?_, ?_,
    fun doc depth c c' ev m a h hp hx => Yaml.Runs.optional_some h hp hx,
    Yaml.Scalar.normalized_eq_none_iff,
    fun doc depth c c₁ tag₀ m₀ kvs tag text style m n u hs h hk hv hr =>
      Yaml.Fails.keyedMap_wide hs h hk hv hr⟩
  · intro doc depth c c' tag m m' kvs hs h he
    exact ⟨_, Yaml.Runs.keyedMap hs h he, KeyedList.firstKeysLastValues_ofList _⟩
  · intro doc depth c c' tag m m' kvs hs h he
    exact ⟨_, Yaml.Runs.nullableMap hs h he, KeyedList.lastValuesPresent_ofList _⟩
  · intro doc depth c c' tag m m' os hs h he
    exact Yaml.Runs.nullableList hs h he
  · intro doc depth c ev m h hn
    exact ⟨Yaml.Runs.keyedMap_null h hn, Yaml.Runs.nullableMap_null h hn,
      Yaml.Runs.nullableList_null h hn, Yaml.Runs.optional_null h hn⟩

/-- A float key and an integer key with the same text share one place; a null
key drops its entry; a null last value drops its key. -/
example : (Yaml.readDocument ("openapi: 3.0.0\ncomponents:\n  schemas:\n    b: \x7b\x7d\n" ++
      "    1.0: null\n    a: \x7b\x7d\n    1: \x7b\x7d\n    ~: \x7b\x7d\n    a: null\n")).toOption.map
      (fun d => d.components.schemas.map (·.1)) = some ["b", "1"] := by
  decide +kernel

/-- A YAML integer key past the 64-bit ranges refuses the whole document. -/
theorem parseDocument_refuses_wide_integer_key :
    ((parseDocument "api.yaml"
        "openapi: 3.0.0\ncomponents:\n  schemas:\n    18446744073709551616: \x7b\x7d\n" .yaml).mapError
        ParseError.message).map (fun _ => ()) =
      .error ("Failed to parse api.yaml as YAML: components.schemas: invalid type: integer " ++
        "`18446744073709551616` as u128, expected a string or scalar value at line 4 column 5") := by
  decide +kernel

end OpenApiLint
