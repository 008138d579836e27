import ProtoPlan.Code.Grammar
import ProtoPlan.Proofs.Code.Parser
import Mathlib.Data.List.Find

/-!
Every reader of the grammar reads on, also one that may go deeper: what it takes from lexemes of
which it leaves some does not depend on what comes after the last.
-/

namespace ProtoPlan.Code.Grammar

open ProtoPlan.Code.Parser

variable {name : Ident}

/-- All readers of the grammar read on if they may go deeper. -/
structure Deeper (name : Ident) (n m : Nat) : Prop where
  segment : ∀ inExpression, ReadsOn name (segment n inExpression) (segment m inExpression)
  path : ∀ inExpression, ReadsOn name (path n inExpression) (path m inExpression)
  morePath : ∀ inExpression path,
    ReadsOn name (morePath n inExpression path) (morePath m inExpression path)
  qualifiedPath : ∀ inExpression,
    ReadsOn name (qualifiedPath n inExpression) (qualifiedPath m inExpression)
  colonSegments : ∀ inExpression,
    ReadsOn name (colonSegments n inExpression) (colonSegments m inExpression)
  arguments : ReadsOn name (arguments n) (arguments m)
  argumentList : ReadsOn name (argumentList n) (argumentList m)
  argument : ReadsOn name (argument n) (argument m)
  constant : ReadsOn name (constant n) (constant m)
  itemBounds : ReadsOn name (itemBounds n) (itemBounds m)
  bound : ReadsOn name (bound n) (bound m)
  traitBound : ReadsOn name (traitBound n) (traitBound m)
  bounds : ∀ joined, ReadsOn name (bounds n joined) (bounds m joined)
  traitBounds : ∀ joined, ReadsOn name (traitBounds n joined) (traitBounds m joined)
  parameters : ReadsOn name (parameters n) (parameters m)
  result : ReadsOn name (result n) (result m)
  type : ∀ joined, ReadsOn name (type n joined) (type m joined)
  pathType : ∀ lifetimes joined,
    ReadsOn name (pathType n lifetimes joined) (pathType m lifetimes joined)
  withParameters : ∀ path, ReadsOn name (withParameters n path) (withParameters m path)
  moreBounds : ReadsOn name (moreBounds n) (moreBounds m)
  parenContent : ReadsOn name (parenContent n) (parenContent m)
  parenType : ∀ joined, ReadsOn name (parenType n joined) (parenType m joined)
  plusBounds : ReadsOn name (plusBounds n) (plusBounds m)
  elements : ReadsOn name (elements n) (elements m)
  function : ReadsOn name (function n) (function m)
  functionInputs : ReadsOn name (functionInputs n) (functionInputs m)
  expression : ∀ least, ReadsOn name (expression n least) (expression m least)
  operations : ∀ least left, ReadsOn name (operations n least left) (operations m least left)
  unary : ReadsOn name (unary n) (unary m)
  postfixes : ∀ operand, ReadsOn name (postfixes n operand) (postfixes m operand)
  member : ReadsOn name (member n) (member m)
  atom : ReadsOn name (atom n) (atom m)
  items : ReadsOn name (items n) (items m)
  condition : ReadsOn name (condition n) (condition m)
  block : ReadsOn name (block n) (block m)
  statements : ReadsOn name (statements n) (statements m)

theorem near_opensArguments : Near name opensArguments :=
  ((near_atPunct (by decide)).and (near_atPunct (by decide)).not).and (near_atPunct (by decide)).not

theorem near_opensParameters : Near name opensParameters :=
  (near_atGroup _).or (near_atPunctThen (by decide) (by decide) (near_atGroup _))

theorem near_opensPath : Near name opensPath :=
  (near_atName.or (.any fun _ _ => near_atWord _)).or (near_atPunct (by decide))

theorem near_opensBound : Near name opensBound :=
  (((near_atAnyWord.or (near_atPunct (by decide))).or (near_atPunct (by decide))).or
    near_atLifetime).or (near_atGroup _)

/-- A lifetime as an argument is one that no plus sign follows. -/
theorem near_lifetimeArgument :
    Near name fun ls => atLifetime ls && !atPunct "+" (ls.drop 1) :=
  near_atLifetime.and (.not (.drop (near_atPunct (by decide)) rfl))

/-- The name of a parameter is one that a colon follows, and no other colon. -/
theorem near_opensNamed :
    Near name fun ls => (atName ls || atWord "_" ls || atWord "self" ls) &&
      atPunct ":" (ls.drop 1) && !atPunct "::" (ls.drop 1) := by
  have hcolon : Near name fun ls => atPunct ":" ls && !atPunct "::" ls :=
    (near_atPunct (by decide)).and (near_atPunct (by decide)).not
  have hname : Near name fun ls => atName ls || atWord "_" ls || atWord "self" ls :=
    (near_atName.or (near_atWord _)).or (near_atWord _)
  -- A colon ahead would pass for one that follows, but not with the other behind it.
  simpa only [Bool.and_assoc] using hname.and (hcolon.drop rfl)

theorem near_opensUnary : Near name fun ls => ["*", "!", "-"].any (atPunct · ls) := by
  have hcolons : ∀ sign ∈ ["*", "!", "-"], colonsLead sign.toList = true := by decide
  exact .any fun sign hsign => near_atPunct (hcolons sign hsign)

theorem near_always : Near name fun _ => true := fun _ _ _ => rfl

theorem near_of_literal (test : String → Bool) :
    Near name fun
      | .literal text :: _ => test text
      | _ => false :=
  near_of_head (fun l _ _ => by cases l <;> rfl) fun _ _ _ => rfl

theorem colonsLead_operators : ∀ x ∈ operators, colonsLead x.1.toList = true := by decide

theorem readsOn_literal : ReadsOn name literal literal :=
  (ReadsOn.punct? (by decide)).bind fun _ =>
    (ReadsOn.one (near_atLiteral.and (near_atPunct (by decide)).not)).bind fun _ => .pure _

theorem readsOn_lifetimeBounds {n m : Nat} (h : n ≤ m) :
    ReadsOn name (lifetimeBounds n) (lifetimeBounds m) := by
  induction n generalizing m with
  | zero => exact .failure
  | succ n ih =>
    obtain ⟨m, rfl⟩ : ∃ k, m = k + 1 := ⟨m - 1, by omega⟩
    have hmore := ih (Nat.le_of_succ_le_succ h)
    have hend : Near name fun ls => atPunct "," ls || atPunct ">" ls :=
      (near_atPunct (by decide)).or (near_atPunct (by decide))
    exact (ReadsOn.sees hend).bind fun _ => .ite (.pure _)
      ((ReadsOn.one near_atLifetime).bind fun _ =>
        (ReadsOn.sees (near_atPunct (by decide))).bind fun _ => .ite
          ((ReadsOn.punct (by decide)).bind fun _ => hmore.bind fun _ => .pure _) (.pure _))

theorem readsOn_lifetimeList {n m : Nat} (h : n ≤ m) :
    ReadsOn name (lifetimeList n) (lifetimeList m) := by
  induction n generalizing m with
  | zero => exact .failure
  | succ n ih =>
    obtain ⟨m, rfl⟩ : ∃ k, m = k + 1 := ⟨m - 1, by omega⟩
    have hbounds : ReadsOn name (lifetimeBounds n) (lifetimeBounds m) :=
      readsOn_lifetimeBounds (Nat.le_of_succ_le_succ h)
    have hmore (first : Tokens) : ReadsOn name
        (do
          if ← sees (atPunct ">") then return first
          let comma ← punct ","
          return first ++ comma ++ (← lifetimeList n))
        (do
          if ← sees (atPunct ">") then return first
          let comma ← punct ","
          return first ++ comma ++ (← lifetimeList m)) :=
      (ReadsOn.sees (near_atPunct (by decide))).bind fun _ => .ite (.pure _)
        ((ReadsOn.punct (by decide)).bind fun _ =>
          (ih (Nat.le_of_succ_le_succ h)).bind fun _ => .pure _)
    exact (ReadsOn.sees (near_atPunct (by decide))).bind fun _ => .ite (.pure _)
      ((ReadsOn.one near_atLifetime).bind fun first =>
        (ReadsOn.sees (near_atPunct (by decide))).bind fun _ => .ite
          ((ReadsOn.punct (by decide)).bind fun _ => hbounds.bind fun _ =>
            .ite (hmore _) (hmore first))
          (hmore first))

theorem readsOn_anyLifetimes {n m : Nat} (h : n ≤ m) :
    ReadsOn name (anyLifetimes n) (anyLifetimes m) :=
  .ifSees (near_atWord "for") ((ReadsOn.reserved "for").bind fun _ =>
    (ReadsOn.punct (by decide)).bind fun _ => (readsOn_lifetimeList h).bind fun _ =>
    (ReadsOn.punct (by decide)).bind fun _ => .pure _)

theorem deeper_zero (m : Nat) : Deeper name 0 m := by
  constructor
  all_goals
    intros
    exact .failure

section Step

variable {n m : Nat} (h : Deeper name n m)
include h

theorem Deeper.parenType_succ (joined : Bool) :
    ReadsOn name (Grammar.parenType (n + 1) joined) (Grammar.parenType (m + 1) joined) := by
  refine (ReadsOn.inGroup h.parenContent).bind fun (inner, form) => ?_
  cases form with
  | bound =>
    exact .ite (h.plusBounds.bind fun _ => .pure _) ((ReadsOn.pure []).bind fun _ => .pure _)
  | relaxed => exact h.plusBounds.bind fun _ => .pure _
  | _ => exact .pure _

/-- The operator that comes first in the list is the same if the lexemes go on. -/
theorem Deeper.operations_succ (least : Nat) (left : Operand) :
    ReadsOn name (Grammar.operations (n + 1) least left)
      (Grammar.operations (m + 1) least left) := by
  refine (ReadsOn.sees (near_atWord "as")).bind fun _ => .ite
    ((ReadsOn.reserved "as").bind fun _ => (h.type false).bind fun _ => h.operations ..)
    (.get (fun ls => ?_) fun ls ls' hls => ?_)
  · cases hfind : operators.find? fun x => atPunct x.1 ls with
    | none => exact .pure left
    | some x =>
      have hcolons := colonsLead_operators x (List.mem_of_find?_eq_some hfind)
      have hmore : ReadsOn name
          (do
            let operator ← punct x.1
            let right ← Grammar.expression n (x.2 + 1)
            Grammar.operations n least
              { tokens := left.tokens ++ operator ++ right.tokens
                isComparison := x.2 = comparison })
          (do
            let operator ← punct x.1
            let right ← Grammar.expression m (x.2 + 1)
            Grammar.operations m least
              { tokens := left.tokens ++ operator ++ right.tokens
                isComparison := x.2 = comparison }) :=
        (ReadsOn.punct hcolons).bind fun _ => (h.expression _).bind fun _ => h.operations ..
      exact .ite (.pure left) (.ite (ReadsOn.failure.bind fun _ => hmore) hmore)
  · have hfind : (operators.find? fun x => atPunct x.1 ls') =
        operators.find? fun x => atPunct x.1 ls :=
      List.find?_congr fun x hx => near_atPunct (colonsLead_operators x hx) hls
    rw [hfind]

/-- A reader is made of readers and of tests of what is ahead, and each of these reads on. -/
theorem Deeper.succ (hle : n ≤ m) : Deeper name (n + 1) (m + 1) := by
  constructor
  case parenType => exact h.parenType_succ
  case operations => exact h.operations_succ
  all_goals
    intros
    simp only [Grammar.segment, Grammar.path, Grammar.morePath, Grammar.qualifiedPath,
      Grammar.colonSegments, Grammar.arguments, Grammar.argumentList, Grammar.argument,
      Grammar.constant, Grammar.itemBounds, Grammar.bound, Grammar.traitBound, Grammar.bounds,
      Grammar.traitBounds, Grammar.parameters, Grammar.result, Grammar.type, Grammar.pathType,
      Grammar.withParameters, Grammar.moreBounds, Grammar.parenContent, Grammar.plusBounds,
      Grammar.elements, Grammar.function, Grammar.functionInputs, Grammar.expression,
      Grammar.unary, Grammar.postfixes, Grammar.member, Grammar.atom, Grammar.items,
      Grammar.condition, Grammar.block, Grammar.statements]
    repeat' with_reducible first
      | apply ReadsOn.isEmpty | apply ReadsOn.bind | apply ReadsOn.ite | apply ReadsOn.pure
      | apply ReadsOn.failure | intro _
      | apply ReadsOn.sees | apply ReadsOn.ifSees | apply ReadsOn.one | apply ReadsOn.anyIdent
      | apply ReadsOn.punct | apply ReadsOn.punct? | apply ReadsOn.reserved
      | apply ReadsOn.reserved? | apply ReadsOn.anyGroup | apply ReadsOn.inGroup
      | apply ReadsOn.commaList | apply readsOn_literal | apply readsOn_anyLifetimes hle
      | exact h.segment _ | exact h.path _ | exact h.morePath _ _ | exact h.qualifiedPath _
      | exact h.colonSegments _ | exact h.arguments | exact h.argumentList | exact h.argument
      | exact h.constant | exact h.itemBounds | exact h.bound | exact h.traitBound
      | exact h.bounds _ | exact h.traitBounds _ | exact h.parameters | exact h.result
      | exact h.type _ | exact h.pathType _ _ | exact h.withParameters _ | exact h.moreBounds
      | exact h.parenContent | exact h.parenType _ | exact h.plusBounds | exact h.elements
      | exact h.function | exact h.functionInputs | exact h.expression _ | exact h.operations _ _
      | exact h.unary | exact h.postfixes _ | exact h.member | exact h.atom | exact h.items
      | exact h.condition | exact h.block | exact h.statements
  -- What is left are the tests.
  all_goals
    repeat' with_reducible first
      | exact near_opensArguments | exact near_opensParameters | exact near_opensPath
      | exact near_opensBound | exact near_opensUnary | exact near_lifetimeArgument
      | exact near_opensNamed | exact near_always
      | exact near_atName | exact near_atAnyWord | exact near_atLifetime | exact near_atLiteral
      | exact near_atWord _ | exact near_atGroup _ | apply near_atPunct | apply near_atPunctThen
      | apply Near.and | apply Near.or | apply Near.not | apply Near.any | intro _ | decide
  case function => exact near_of_literal _
  case member => exact near_of_literal _

end Step

/-- What is taken with less depth is taken with more. -/
theorem deeper {n m : Nat} (h : n ≤ m) : Deeper name n m := by
  induction n generalizing m with
  | zero => exact deeper_zero m
  | succ n ih =>
    obtain ⟨m, rfl⟩ : ∃ k, m = k + 1 := ⟨m - 1, by omega⟩
    have hle := Nat.le_of_succ_le_succ h
    exact (ih hle).succ hle

end ProtoPlan.Code.Grammar
