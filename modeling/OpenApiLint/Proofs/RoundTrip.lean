import Mathlib
import OpenApiLint.Proofs.YamlSound
import OpenApiLint.Document.Parse
/-!
# Parsed documents through their JSON text

A document that `parseDocument` returns, written as compact JSON text and
parsed again as JSON, comes back unchanged, given three things:

* it holds no null that reading drops.  A null enum member disappears and a
  null parameter schema reads as none; a JSON text never yields such a null,
  but a YAML one does, from a non-finite double (`.inf`, `.nan`), which a data
  value holds as null;
* its JSON text nests less deep than the JSON reader allows: YAML allows one
  level more;
* its doubles read back as they are written.

Without the first, the round trip fails: an enum holding only `.inf` comes
back empty (`parseDocument_compact_drops_null_enum`).  With all three, a YAML document
whose parameter schema holds the double `1.5` and whose schema has a string
enum comes back as it was (`parseDocument_compact_roundTrip_pets`).

The proof joins the two halves proved before: every notation reads storable
documents (`Decoder.Sound.document`), and the compact text of a storable,
null-free document reads back as that document (`Json.readDocument_compact`).

## Main statements

* `parseDocument_eq_ok_iff` — the three steps of parsing.
* `parseDocument_compact_roundTrip` — the round trip.
-/

namespace OpenApiLint

/-! ## Documents read are storable -/

theorem Json.readDocument_storable {content : String} {d : Document}
    (h : Json.readDocument content = .ok d) : d.Storable := by
  refine Json.satisfiesM_iff.mp ?_ _ _ d _ (Prod.ext h rfl)
  refine decoder_sound.document.bind fun d hd => satisfiesM_bind_of_right fun o => ?_
  split
  · exact Json.satisfiesM_failAhead _ _
  · exact SatisfiesM.pure hd

theorem Yaml.readDocument_storable {input : String} {d : Document}
    (h : Yaml.readDocument input = .ok d) : d.Storable := by
  unfold Yaml.readDocument at h
  generalize Yaml.load input = doc at h
  dsimp only at h
  split at h
  · cases h
  · rename_i d' _ hrun
    have hd' := Yaml.satisfiesM_iff.mp Yaml.decoder_sound.document _ _ _ hrun
    -- a document error, or a second document, turns the result into an error
    split at h
    · cases h
    · split at h
      · cases h
      · cases h
        exact hd'

theorem readIn_json {name content : String} {d : Document} (h : Json.readDocument content = .ok d) :
    readIn name content .json = .ok d := by
  unfold readIn
  rw [h]

theorem readIn_yaml {name content : String} {d : Document} (h : Yaml.readDocument content = .ok d) :
    readIn name content .yaml = .ok d := by
  unfold readIn
  rw [h]

/-- **Every document read, in either notation, is storable.** -/
theorem readIn_storable {name content : String} {format : SourceFormat} {d : Document}
    (h : readIn name content format = .ok d) : d.Storable := by
  -- the reader's error becomes a parse error; its document is returned as it is
  unfold readIn at h
  cases format with
  | json =>
    cases hj : Json.readDocument content with
    | ok d' =>
      rw [hj] at h
      cases h
      exact Json.readDocument_storable hj
    | error e =>
      rw [hj] at h
      cases h
  | yaml =>
    cases hy : Yaml.readDocument content with
    | ok d' =>
      rw [hy] at h
      cases h
      exact Yaml.readDocument_storable hy
    | error e =>
      rw [hy] at h
      cases h

/-! ## The steps of parsing -/

/-- Parsing succeeds when the text is not blank, reads as a document, and
the document declares a supported version. -/
theorem parseDocument_eq_ok_iff {name content : String} {format : SourceFormat} {d : Document} :
    parseDocument name content format = .ok d ↔
      Text.trim content.toList ≠ [] ∧ readIn name content format = .ok d ∧
        ∃ v, d.openapi = some v ∧ supportedVersion v = true := by
  by_cases hblank : Text.trim content.toList = []
  · simp [parseDocument, hblank, throw, throwThe, MonadExceptOf.throw, bind, Except.bind]
  · cases hread : readIn name content format with
    | error e => simp [parseDocument, hblank, hread, bind, Except.bind]
    | ok d' =>
      cases hv : d'.openapi with
      | none =>
        simp [parseDocument, hblank, hread, hv, bind, Except.bind, throw, throwThe,
          MonadExceptOf.throw]
        rintro rfl x hx
        simp [hv] at hx
      | some v =>
        by_cases hs : supportedVersion v = true
        · simp [parseDocument, hblank, hread, hv, hs, bind, Except.bind, pure, Except.pure]
          rintro rfl
          exact ⟨v, hv, hs⟩
        · simp [parseDocument, hblank, hread, hv, hs, bind, Except.bind, throw, throwThe,
            MonadExceptOf.throw]
          rintro rfl x hx
          simp only [hv, Option.some.injEq] at hx
          subst hx
          simpa using hs

theorem supportedVersion_three : supportedVersion "3.0.0" = true := by
  simp +decide [supportedVersion, String.splitOn, String.splitOnAux]

/-- An ASCII byte in a character's encoding is the whole character. -/
theorem Text.toNat_eq_of_mem_encodeChar {c : Char} {b : UInt8} (hb : b ∈ Text.encodeChar c)
    (hlt : b.toNat < 0x80) : c.toNat = b.toNat := by
  have hmax := Text.toNat_lt_of_char c
  simp only [Text.encodeChar, Text.encodePoint] at hb
  -- only the one-byte form has a byte below 0x80
  split_ifs at hb <;> simp only [List.mem_cons, List.not_mem_nil, or_false] at hb
  · subst hb
    simp
    omega
  · rcases hb with rfl | rfl <;> simp at hlt <;> omega
  · rcases hb with rfl | rfl | rfl <;> simp at hlt <;> omega
  · rcases hb with rfl | rfl | rfl | rfl <;> simp at hlt <;> omega

/-- The compact text of an object is never blank: it holds its opening brace. -/
theorem trim_compact_obj_ne_nil (es : List (String × Value)) :
    Text.trim (Value.obj es).compact.toList ≠ [] := by
  intro h
  have h123 : (123 : UInt8) ∈ Text.encodeUtf8 (Value.obj es).compact := by
    rw [Value.bytes_compact]
    simp [Value.bytes]
  obtain ⟨c, hc, hb⟩ := List.mem_flatMap.mp h123
  have hbrace : c = '\x7b' := by
    rw [← Char.ofNat_toNat c, Text.toNat_eq_of_mem_encodeChar hb (by decide)]
    rfl
  have hw := (Text.trim_eq_nil_iff _).mp h c hc
  rw [hbrace] at hw
  exact absurd hw (by decide)

/-! ## The round trip -/

/-- **A parsed document is a fixpoint of writing and reading JSON**, under any
name, when it holds no null that reading drops, its JSON text nests less deep
than the JSON reader allows, and its doubles read back as written. -/
theorem parseDocument_compact_roundTrip {name content : String} {format : SourceFormat}
    {d : Document} (h : parseDocument name content format = .ok d) (hn : d.NullFree)
    (hdepth : d.toValue.depth < Json.depthLimit) (hf : ∀ x ∈ d.toValue.doubles, Json.ReadsBack x)
    (name' : String) : parseDocument name' d.toValue.compact .json = .ok d := by
  obtain ⟨-, hread, v, hv, hsupported⟩ := parseDocument_eq_ok_iff.mp h
  have hs : d.Storable := readIn_storable hread
  refine parseDocument_eq_ok_iff.mpr ⟨?_, ?_, v, hv, hsupported⟩
  · rw [Document.toValue_eq]
    exact trim_compact_obj_ne_nil _
  · exact readIn_json (Json.readDocument_compact hs hn hf hdepth)

/-- A run of a reader whose outcome, errors aside, is `a` returned `a`. -/
theorem Except.eq_ok_of_toOption {ε α : Type} {x : Except ε α} {a : α} (h : x.toOption = some a) :
    x = .ok a := by
  cases x with
  | error e => cases h
  | ok b => cases h; rfl

/-- A document with a path whose `GET` operation takes a query parameter
bounded by the double `1.5`, and a component schema with a property and an
enum of two strings. -/
def petsDocument : Document where
  openapi := some "3.0.0"
  paths := [("/pets", { get := some {
    parameters := [{
      name := some "limit"
      location := some "query"
      schema := some (.obj [("maximum", .float (Number.Binary64.ofRatio false 3 2 0))]) }] } })]
  components := { schemas := [("Pet", {
    properties := [("kind", some {})]
    enumValues := [.str "cat", .str "dog"] })] }

theorem petsDocument_nullFree : petsDocument.NullFree where
  paths := by
    simp only [petsDocument, List.mem_singleton, forall_eq]
    refine ⟨by simp, fun m => ?_⟩
    cases m <;> simp [PathItem.operation, Parameter.NullFree]
  schemas := by
    simp only [petsDocument, Document.schemas, List.mem_singleton, forall_eq]
    refine .mk ?_ (by simp)
    simp only [List.mem_singleton, forall_eq, Option.mem_def, Option.some.injEq, forall_eq']
    exact .mk (by simp) (by simp)

/-- The document of a YAML text with a parameter schema holding a double and a
schema with a string enum goes through its JSON text unchanged. -/
theorem parseDocument_compact_roundTrip_pets :
    parseDocument "pets.yaml" "openapi: 3.0.0\npaths: \x7b/pets: \x7bget: \x7bparameters: [\x7bname: limit, in: query, schema: \x7bmaximum: 1.5\x7d\x7d]\x7d\x7d\x7d\ncomponents: \x7bschemas: \x7bPet: \x7bproperties: \x7bkind: \x7b\x7d\x7d, enum: [cat, dog]\x7d\x7d\x7d\n" .yaml =
      .ok petsDocument ∧
    parseDocument "pets.json" petsDocument.toValue.compact .json = .ok petsDocument := by
  have hyaml : (Yaml.readDocument "openapi: 3.0.0\npaths: \x7b/pets: \x7bget: \x7bparameters: [\x7bname: limit, in: query, schema: \x7bmaximum: 1.5\x7d\x7d]\x7d\x7d\x7d\ncomponents: \x7bschemas: \x7bPet: \x7bproperties: \x7bkind: \x7b\x7d\x7d, enum: [cat, dog]\x7d\x7d\x7d\n").toOption =
      some petsDocument := by
    decide +kernel
  have hparse : parseDocument "pets.yaml" "openapi: 3.0.0\npaths: \x7b/pets: \x7bget: \x7bparameters: [\x7bname: limit, in: query, schema: \x7bmaximum: 1.5\x7d\x7d]\x7d\x7d\x7d\ncomponents: \x7bschemas: \x7bPet: \x7bproperties: \x7bkind: \x7b\x7d\x7d, enum: [cat, dog]\x7d\x7d\x7d\n" .yaml =
      .ok petsDocument := by
    refine parseDocument_eq_ok_iff.mpr ⟨?_, readIn_yaml (Except.eq_ok_of_toOption hyaml), "3.0.0", rfl,
      supportedVersion_three⟩
    decide +kernel
  -- the one double is `1.5`, whose data text reads back
  have hdoubles : petsDocument.toValue.doubles = [Number.Binary64.ofRatio false 3 2 0] := by decide +kernel
  refine ⟨hparse, parseDocument_compact_roundTrip hparse petsDocument_nullFree (by decide +kernel)
    ?_ "pets.json"⟩
  rw [hdoubles]
  simpa using Json.readsBack_one_and_a_half

/-- **The round trip fails for a YAML enum holding a non-finite double**:
`.inf` is held as null, written as `null`, and dropped when the JSON text is
read, so the enum comes back empty. -/
theorem parseDocument_compact_drops_null_enum :
    ¬ ∀ (name content : String) (format : SourceFormat) (d : Document),
      parseDocument name content format = .ok d → (∀ x ∈ d.toValue.doubles, Json.ReadsBack x) →
        parseDocument name d.toValue.compact .json = .ok d := by
  intro hclaim
  have hyaml : ((Yaml.readDocument
      "openapi: 3.0.0\ncomponents: \x7bschemas: \x7bS: \x7benum: [.inf]\x7d\x7d\x7d\n").toOption.map
        fun d => (d.openapi, d.schemas.map (·.2.enumValues.length), d.toValue.doubles.length,
          d.toValue.compact)) =
      some (some "3.0.0", [1], 0, "\x7b\"openapi\":\"3.0.0\",\"info\":null,\"paths\":\x7b\x7d,\"components\":\x7b\"schemas\":\x7b\"S\":\x7b\"properties\":\x7b\x7d,\"enum\":[null]\x7d\x7d\x7d\x7d") := by
    decide +kernel
  cases hy : Yaml.readDocument
      "openapi: 3.0.0\ncomponents: \x7bschemas: \x7bS: \x7benum: [.inf]\x7d\x7d\x7d\n" with
  | error e => simp [hy, Except.toOption] at hyaml
  | ok d =>
    simp only [hy, Except.toOption, Option.map_some, Option.some.injEq, Prod.mk.injEq] at hyaml
    obtain ⟨hv, henum, hdoubles, hcompact⟩ := hyaml
    have hparse : parseDocument "api.yaml"
        "openapi: 3.0.0\ncomponents: \x7bschemas: \x7bS: \x7benum: [.inf]\x7d\x7d\x7d\n" .yaml = .ok d :=
      parseDocument_eq_ok_iff.mpr ⟨by decide +kernel, readIn_yaml hy, "3.0.0", hv, supportedVersion_three⟩
    have hround := hclaim _ _ _ d hparse (by simp [List.length_eq_zero_iff.mp hdoubles])
    rw [hcompact] at hround
    obtain ⟨-, hjson, -⟩ := parseDocument_eq_ok_iff.mp hround
    -- reading the JSON text drops the null member
    have hdrop : ((Json.readDocument "\x7b\"openapi\":\"3.0.0\",\"info\":null,\"paths\":\x7b\x7d,\"components\":\x7b\"schemas\":\x7b\"S\":\x7b\"properties\":\x7b\x7d,\"enum\":[null]\x7d\x7d\x7d\x7d").toOption.map
        fun d => d.schemas.map (·.2.enumValues.length)) = some [0] := by
      decide +kernel
    unfold readIn at hjson
    cases hj : Json.readDocument "\x7b\"openapi\":\"3.0.0\",\"info\":null,\"paths\":\x7b\x7d,\"components\":\x7b\"schemas\":\x7b\"S\":\x7b\"properties\":\x7b\x7d,\"enum\":[null]\x7d\x7d\x7d\x7d" with
    | ok d' =>
      rw [hj] at hjson
      cases hjson
      simp [hj, Except.toOption, henum] at hdrop
    | error e =>
      rw [hj] at hjson
      cases hjson

end OpenApiLint
