import CardEffects.Keyword

/-!
# Scopes

How far over the board an instruction reaches when it does not name its target.
-/

namespace CardEffects

/-- Which creatures an instruction applies to. -/
inductive Scope
  /-- Every active creature on the board. -/
  | all
  /-- The creatures of the acting player. -/
  | global
deriving DecidableEq, Repr

instance : Keyword Scope where
  all := [.all, .global]
  word
    | .all => "all"
    | .global => "global"
  mem_all keyword := by cases keyword <;> decide
  nodup_map_word := by decide

end CardEffects
