import BuildConfig.Artifact
import BuildConfig.Proofs.Registry.FromText

namespace BuildConfig

namespace Registry

-- The definitions that appear in generated files, in their order.
def shown (r : Registry) : List Definition :=
  r.definitions.filter (·.define ≠ "")

-- The definitions that generated files leave out.
def hidden (r : Registry) : List Definition :=
  r.definitions.filter (·.define = "")

theorem mem_of_mem_shown {r : Registry} {d : Definition} (h : d ∈ r.shown) : d ∈ r.definitions :=
  (List.mem_filter.mp h).left

end Registry

namespace ArtifactKind

variable {naming : Naming} {kind : ArtifactKind} {r r₁ r₂ : Registry} {d d₁ d₂ : Definition}
variable {ds ds₁ ds₂ : List Definition}

theorem value_render : (kind.render naming r).value = Text.unlines (kind.lines naming r.shown) :=
  rfl

theorem warnings_render : (kind.render naming r).warnings = r.hidden.map (.noDefine ·.name) :=
  List.append_nil _

section OneLine
variable (hp : '\n' ∉ naming.namePrefix.toList) (hg : '\n' ∉ naming.guard.toList)
include hp

theorem newline_not_mem_binding (h : d.OneLine) : '\n' ∉ (kind.binding naming d).toList := by
  have hd := h.define
  have hv := h.value
  cases kind <;> simp [binding, hp, hd, hv]

include hg

theorem newline_not_mem_lines (h : ∀ d ∈ ds, d.OneLine) :
    ∀ line ∈ kind.lines naming ds, '\n' ∉ line.toList := by
  have hb : ∀ line ∈ ds.map (kind.binding naming ·), '\n' ∉ line.toList := by
    intro line hl
    have ⟨d, hd, he⟩ := List.mem_map.mp hl
    exact he ▸ newline_not_mem_binding hp (h d hd)
  cases kind with
  | makefile => exact hb
  | header =>
    rw [lines, enclose, List.forall_mem_append, List.forall_mem_append]
    refine ⟨⟨?start, hb⟩, ?stop⟩
    case start => simp [hg]
    case stop  => simp

theorem hasLines_render (h : r.OneLine) :
    Text.HasLines (kind.render naming r).value (kind.lines naming r.shown) := by
  rw [value_render]
  apply Text.hasLines_unlines
  exact newline_not_mem_lines hp hg fun d hd => h d (Registry.mem_of_mem_shown hd)

end OneLine

theorem binding_inj (hd : d₁.define = d₂.define)
    (h : kind.binding naming d₁ = kind.binding naming d₂) : d₁.value.render = d₂.value.render := by
  cases kind <;> simpa [binding, hd] using h

theorem bindings_eq_of_lines_eq (h : kind.lines naming ds₁ = kind.lines naming ds₂) :
    ds₁.map (kind.binding naming ·) = ds₂.map (kind.binding naming ·) := by
  cases kind <;> simpa [lines, enclose] using h

-- Where name and type are the same, equal bindings have equal values.
theorem values_eq_of_bindings_eq (h₁ : ∀ d ∈ ds₁, d.Typed) (h₂ : ∀ d ∈ ds₂, d.Typed)
    (hs : ds₁.map (fun d => (d.define, d.type)) = ds₂.map fun d => (d.define, d.type))
    (h : ds₁.map (kind.binding naming ·) = ds₂.map (kind.binding naming ·)) :
    ds₁.map (·.value) = ds₂.map (·.value) := by
  induction ds₁ generalizing ds₂ with
  | nil =>
    cases ds₂ with
    | nil => rfl
    | cons d₂ ds₂ => contradiction
  | cons d₁ ds₁ ih =>
    cases ds₂ with
    | nil => contradiction
    | cons d₂ ds₂ =>
      have ⟨h₁, hs₁⟩ := List.forall_mem_cons.mp h₁
      have ⟨h₂, hs₂⟩ := List.forall_mem_cons.mp h₂
      have ⟨hd, hs⟩ := List.cons_eq_cons.mp hs
      have ⟨hb, hr⟩ := List.cons_eq_cons.mp h
      have ⟨hn, ht⟩ := Prod.mk.inj hd
      have ht : d₁.value.type = d₂.value.type := by rw [h₁.value_type, h₂.value_type, ht]
      have hv : d₁.value = d₂.value := Value.render_injective ht (binding_inj hn hb)
      exact List.cons_eq_cons.mpr ⟨hv, ih hs₁ hs₂ hs hr⟩

end ArtifactKind

-- What the two kinds of artifact are line by line, and that they report the same definitions.
structure LineByLine (naming : Naming) (r : Registry) : Prop where
  header   : Text.HasLines (ArtifactKind.header.render naming r).value
    (["#ifndef " ++ naming.guard, "#define " ++ naming.guard ++ " 1"] ++
      r.shown.map (fun d =>
        "#define " ++ naming.namePrefix ++ d.define ++ " " ++ d.value.render) ++
      ["#endif"])
  makefile : Text.HasLines (ArtifactKind.makefile.render naming r).value
    (r.shown.map fun d => naming.namePrefix ++ d.define ++ " := " ++ d.value.render)
  warnings : ∀ kind : ArtifactKind,
    (kind.render naming r).warnings = r.hidden.map fun d => .noDefine d.name

-- The artifacts of a registry that comes from texts have one line for each definition that appears,
-- and no text in them adds another one. So nothing about the values is lost: two registries that
-- show the same names with the same types have equal artifacts only if they have equal values.
theorem render_line_by_line {history : List Registry.Operation} {naming : Naming}
    (h : ∀ o ∈ history, o.FromText) (hp : '\n' ∉ naming.namePrefix.toList)
    (hg : '\n' ∉ naming.guard.toList) :
    let r := Registry.after history
    LineByLine naming r ∧
      ∀ other : List Registry.Operation, (∀ o ∈ other, o.FromText) →
        let r' := Registry.after other
        r.shown.map (fun d => (d.define, d.type)) = r'.shown.map (fun d => (d.define, d.type)) →
        ∀ kind : ArtifactKind, (kind.render naming r).value = (kind.render naming r').value →
        r.shown.map (·.value) = r'.shown.map (·.value) := by
  intro r
  have hl (kind : ArtifactKind) :
      Text.HasLines (kind.render naming r).value (kind.lines naming r.shown) :=
    ArtifactKind.hasLines_render hp hg (.after h)
  have ht (history : List Registry.Operation) : ∀ d ∈ (Registry.after history).shown, d.Typed :=
    fun d hd => Registry.Typed.after history d (Registry.mem_of_mem_shown hd)
  refine ⟨⟨hl .header, hl .makefile, fun _ => ArtifactKind.warnings_render⟩, ?_⟩
  intro other ho r' hs kind hr
  have hl' : Text.HasLines (kind.render naming r').value (kind.lines naming r'.shown) :=
    ArtifactKind.hasLines_render hp hg (.after ho)
  have he : kind.lines naming r.shown = kind.lines naming r'.shown := (hl kind).unique (hr ▸ hl')
  exact ArtifactKind.values_eq_of_bindings_eq (ht history) (ht other) hs
    (ArtifactKind.bindings_eq_of_lines_eq he)

-- A text with quotes and a backslash in it, a number in lower or upper case, and a key that does not
-- appear.
def maskDeclared : String :=
  "[NAME]\ndefine = NAME\n[MASK]\ntype = hex_integer\ndefine = MASK\n[LOCAL]\nvalue = 1\n"

def maskDocument : Document := [
  ⟨"NAME", "define", "NAME", 2⟩,
  ⟨"MASK", "type", "hex_integer", 4⟩,
  ⟨"MASK", "define", "MASK", 5⟩,
  ⟨"LOCAL", "value", "1", 7⟩]

def maskGiven (digits : String) : Document := [
  ⟨"", "NAME", "say \"hi\\", 1⟩,
  ⟨"", "MASK", "0x" ++ digits, 2⟩]

def maskHistory (digits : String) : List Registry.Operation := [
  .declareDocument "mask.def" maskDocument,
  .resolveDocument "site.conf" false (maskGiven digits)]

theorem fromText_maskHistory {digits : String}
    (h : Document.read ("NAME = say \"hi\\\nMASK = 0x" ++ digits) = .ok (maskGiven digits)) :
    ∀ o ∈ maskHistory digits, o.FromText := by
  have hd : Document.read maskDeclared = .ok maskDocument := by decide +kernel
  rw [maskHistory, List.forall_mem_cons, List.forall_mem_singleton]
  exact ⟨.declareDocument hd, .resolveDocument h⟩

theorem render_line_by_line_maskHistory :
    Text.HasLines (ArtifactKind.makefile.render {} (Registry.after (maskHistory "ff"))).value
        ["CONFIG_NAME := \"say \\\"hi\\\\\"", "CONFIG_MASK := 0xFF"] ∧
      (Registry.after (maskHistory "ff")).shown.map (·.value) =
        (Registry.after (maskHistory "FF")).shown.map (·.value) := by
  have h₁ : ∀ o ∈ maskHistory "ff", o.FromText := fromText_maskHistory (by decide +kernel)
  have h₂ : ∀ o ∈ maskHistory "FF", o.FromText := fromText_maskHistory (by decide +kernel)
  have ⟨hl, hv⟩ := @render_line_by_line _ {} h₁ (by decide +kernel) (by decide +kernel)
  exact ⟨hl.makefile, hv _ h₂ (by decide +kernel) .makefile (by decide +kernel)⟩

end BuildConfig
