import BuildConfig.Document.Basic
import BuildConfig.Settings.Basic
import BuildConfig.Value.Coercion

namespace BuildConfig

-- Everything that is reported without ending the work, by cause.
inductive Warning
  | note (source message : String)
  | unreadableDefinitions (path : String) (cause : FileError)
  | malformedDefinitions (path : String) (error : Document.Error)
  | keyOutsideSection (source : String) (line : Nat) (key : String)
  | unknownType (source heading token : String)
  | unknownField (source heading key : String)
  | rejectedDefault (source heading : String) (misfit : Misfit)
  | undefinedKey (source key : String)
  | rejectedValue (source key : String) (misfit : Misfit)
  | noDefine (name : String)
  | unwritten (path : String) (error : WriteError)
  | unusableSettings (path : String) (error : Settings.Error)
  deriving DecidableEq

namespace Warning

-- Where the problem was found.
def source : Warning → String
  | note source _                    => source
  | unreadableDefinitions path _     => path
  | malformedDefinitions path e      => path ++ ":" ++ toString e.line
  | keyOutsideSection source line _  => source ++ ":" ++ toString line
  | unknownType source heading _     => source ++ ":" ++ heading ++ ":type"
  | unknownField source heading _    => source ++ ":" ++ heading
  | rejectedDefault source heading _ => source ++ ":" ++ heading ++ ":value"
  | undefinedKey source _            => source
  | rejectedValue source key _       => source ++ ":" ++ key
  | noDefine name                    => name
  | unwritten path _                 => path
  | unusableSettings path _          => path

def message : Warning → String
  | note _ message                => message
  | unreadableDefinitions _ cause => cause.message
  | malformedDefinitions _ e      => "parse error: " ++ e.message
  | keyOutsideSection _ _ key     => "key outside of a section: " ++ key
  | unknownType _ _ token         => "unable to parse: " ++ token
  | unknownField _ _ key          => "unknown key: " ++ key
  | rejectedDefault _ _ misfit    => misfit.message
  | undefinedKey _ key            => "undefined key: " ++ key
  | rejectedValue _ _ misfit      => misfit.message
  | noDefine _                    => "no definition string"
  | unwritten _ (.atOpening e)    => "unable to open file: " ++ e.message
  | unwritten _ (.atWriting e)    => "unable to write file: " ++ e.message
  | unusableSettings _ e          => e.message

def text (w : Warning) : String :=
  w.source ++ ": warning: " ++ w.message

end Warning

-- A result together with the warnings on the way to it, oldest first.
structure Reported (α : Type) where
  value : α
  warnings : List Warning := []

namespace Reported

instance : Monad Reported where
  pure a := ⟨a, []⟩
  bind r f := ⟨(f r.value).value, r.warnings ++ (f r.value).warnings⟩

def warn (w : Warning) : Reported Unit :=
  ⟨(), [w]⟩

def warnIf (p : Prop) [Decidable p] (w : Warning) : Reported Unit :=
  ⟨(), if p then [w] else []⟩

@[simp] theorem value_pure {α : Type} {a : α} : (pure a : Reported α).value = a :=
  rfl

@[simp] theorem warnings_pure {α : Type} {a : α} : (pure a : Reported α).warnings = [] :=
  rfl

@[simp] theorem value_bind {α β : Type} {r : Reported α} {f : α → Reported β} :
    (r >>= f).value = (f r.value).value :=
  rfl

@[simp] theorem warnings_bind {α β : Type} {r : Reported α} {f : α → Reported β} :
    (r >>= f).warnings = r.warnings ++ (f r.value).warnings :=
  rfl

@[simp] theorem warnings_warnIf {p : Prop} [Decidable p] {w : Warning} :
    (warnIf p w).warnings = if p then [w] else [] :=
  rfl

@[ext] theorem ext {α : Type} {r₁ r₂ : Reported α} (hv : r₁.value = r₂.value)
    (hw : r₁.warnings = r₂.warnings) : r₁ = r₂ := by
  cases r₁
  cases r₂
  simp_all

instance : LawfulMonad Reported :=
  LawfulMonad.mk' Reported
    (fun r => by ext1 <;> simp [Functor.map])
    (fun a f => by ext1 <;> simp)
    (fun r f g => by ext1 <;> simp)

@[simp] theorem value_map {α β : Type} {r : Reported α} {f : α → β} : (f <$> r).value = f r.value :=
  rfl

@[simp] theorem warnings_map {α β : Type} {r : Reported α} {f : α → β} :
    (f <$> r).warnings = r.warnings :=
  List.append_nil _

theorem value_foldlM {α β : Type} {f : β → α → Reported β} {init : β} {as : List α} :
    (as.foldlM f init).value = as.foldl (fun b a => (f b a).value) init := by
  induction as generalizing init with
  | nil => rfl
  | cons a as ih => rw [List.foldlM_cons, value_bind, ih, List.foldl_cons]

-- What a loop reports, if what each step reports is told from its element in all states that the loop
-- can be in.
theorem map_warnings_foldlM {α β γ : Type} {f : β → α → Reported β} {g : Warning → γ}
    {P : β → Prop} {report : α → List γ}
    (h : ∀ b a, P b → P (f b a).value ∧ (f b a).warnings.map g = report a) {init : β}
    (hi : P init) {as : List α} :
    (as.foldlM f init).warnings.map g = as.flatMap report := by
  induction as generalizing init with
  | nil => rfl
  | cons a as ih =>
    have ⟨hv, hw⟩ := h init a hi
    rw [List.foldlM_cons, warnings_bind, List.map_append, hw, ih hv, List.flatMap_cons]

end Reported
end BuildConfig
