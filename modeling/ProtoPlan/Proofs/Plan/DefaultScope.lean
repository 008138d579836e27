import ProtoPlan.Proofs.Plan.Fits

/-!
Planning under the default runtime. The types of `google.protobuf`, their plans and the paths of the
runtime do not depend on the schema; they are found once here, and the planning of a given schema is
evaluated from them on.
-/

namespace ProtoPlan

open Code

namespace Scope

/-- The types of `google.protobuf` by name. -/
def knownTypes : SortedMap String TypeInfo :=
  ⟨["Any", "BoolValue", "BytesValue", "DoubleValue", "Duration", "Empty", "FieldMask", "FloatValue",
    "Int32Value", "Int64Value", "ListValue", "StringValue", "Struct", "Timestamp", "UInt32Value",
    "UInt64Value", "Value"].map fun name =>
      ("google.protobuf." ++ name, ⟨"::protodec::well_known::" ++ name, .wellKnown⟩)⟩

theorem wellKnownTypes_eq {options : Options} (h : options.runtime = "::protodec") :
    wellKnownTypes options = knownTypes := by
  have hdefault : wellKnownTypes {} = knownTypes := by decide +kernel
  rw [← hdefault]
  simp only [wellKnownTypes, runtimeType, h]

theorem isSome_runtime : (Path.ofString? "::protodec").isSome = true := by decide +kernel

theorem isSome_errorType : (Path.ofString? "::protodec::DecodeError").isSome = true := by
  decide +kernel

/-- The scope of a schema with these types of its own. -/
def ofTypes (options : Options) (schema : Schema) (types : SortedMap String TypeInfo) : Scope :=
  { options
    runtime := (Path.ofString? "::protodec").get isSome_runtime
    errorType := (Path.ofString? "::protodec::DecodeError").get isSome_errorType
    types := addExternTypes options types
    recursive := schema.recursiveFields }

theorem ofSchema_eq {options : Options} (h : options.runtime = "::protodec") (schema : Schema) :
    ofSchema options schema =
      (addOwnTypes schema.package {} knownTypes (ownMessages schema)).map
        (ofTypes options schema) := by
  have hruntime : Path.ofString? options.runtime =
      some ((Path.ofString? "::protodec").get isSome_runtime) := by rw [h, Option.some_get]
  have herror : Path.ofString? (options.runtime ++ "::DecodeError") =
      some ((Path.ofString? "::protodec::DecodeError").get isSome_errorType) := by
    rw [h, Option.some_get]
    rfl
  rw [ofSchema, hruntime, herror, wellKnownTypes_eq h]
  cases addOwnTypes schema.package {} knownTypes (ownMessages schema) <;> rfl

end Scope

namespace Schema

theorem plans_eq {options : Options} (h : options.runtime = "::protodec") (schema : Schema) :
    schema.plans options =
      ((Scope.addOwnTypes schema.package {} Scope.knownTypes (Scope.ownMessages schema)).map
        (Scope.ofTypes options schema) >>= fun scope =>
          (Scope.ownMessages schema).mapM (Plan.ofMessage scope)) := by
  rw [plans, Scope.ofSchema_eq h]

theorem isSome_knownPlans :
    (Scope.ofSchema {} WellKnown.schema >>= fun scope =>
      WellKnown.messages.mapM (Plan.ofMessage scope)).toOption.isSome = true := by
  rw [Scope.ofSchema_eq rfl]
  decide +kernel

/-- The plans of the messages of `google.protobuf`. -/
def knownPlans : List Plan :=
  (Scope.ofSchema {} WellKnown.schema >>= fun scope =>
    WellKnown.messages.mapM (Plan.ofMessage scope)).toOption.get isSome_knownPlans

theorem allPlans_eq (schema : Schema) :
    schema.allPlans {} = (schema.plans {}).map (· ++ knownPlans) := by
  have hknown := eq_ok_get_of_isSome isSome_knownPlans
  obtain ⟨scope, hscope, hplans⟩ := except_bind_eq_ok_iff.1 hknown
  rw [allPlans, hscope]
  cases schema.plans {} with
  | error e => rfl
  | ok own =>
    show (WellKnown.messages.mapM (Plan.ofMessage scope) >>= fun known => .ok (own ++ known)) = _
    rw [hplans]
    rfl

end Schema

end ProtoPlan
