import Compliance.Proofs.Line.Surroundings
import Compliance.Rule.Catalog

/-!
# Rules see surroundings only

The check of a built-in rule gives the same answer at two lines with the same
surroundings, wherever these lines stand and whatever else their files hold.
-/

namespace Compliance

variable {first second : LineContext}

theorem checkMultiTableWrite_eq (same : SameSurroundings first second) :
    checkMultiTableWrite first = checkMultiTableWrite second := by
  simp only [checkMultiTableWrite, same.line_eq]
  rcases same.functionScope?_cases with ⟨none, none'⟩ | ⟨start, start', lines, target, some, some'⟩
  · rw [none, none']
  · rw [some, some']
    rfl

theorem checkOuterClient_eq (same : SameSurroundings first second) :
    checkOuterClient first = checkOuterClient second := by
  simp only [checkOuterClient, same.line_eq]
  rcases same.functionScope?_cases with ⟨none, none'⟩ | ⟨start, start', lines, target, some, some'⟩
  · rw [none, none']
  · rw [some, some']
    rfl

theorem check_securityRules (same : SameSurroundings first second) {rule : Rule}
    (listed : rule ∈ securityRules) : rule.check first = rule.check second := by
  simp only [securityRules, List.mem_cons, List.not_mem_nil, or_false] at listed
  rcases listed with rfl | rfl | rfl | rfl | rfl <;>
    simp only [Check.total, checkHardcodedSecret, checkDynamicEval, checkRawSql, checkPlainHttp,
      checkConsoleCredential, same.line_eq, same.filename]

theorem check_errorHandlingRules (same : SameSurroundings first second) {rule : Rule}
    (listed : rule ∈ errorHandlingRules) : rule.check first = rule.check second := by
  simp only [errorHandlingRules, List.mem_cons, List.not_mem_nil, or_false] at listed
  rcases listed with rfl | rfl | rfl | rfl | rfl <;>
    simp only [Check.total, checkGenericError, checkEmptyCatch, checkLogOnlyCatch,
      checkUnhandledPromise, checkThrowLiteral, same.line_eq, same.followingLines_eq]

theorem check_performanceRules (same : SameSurroundings first second) {rule : Rule}
    (listed : rule ∈ performanceRules) : rule.check first = rule.check second := by
  simp only [performanceRules, List.mem_cons, List.not_mem_nil, or_false] at listed
  rcases listed with rfl | rfl | rfl | rfl <;>
    simp only [Check.total, checkAwaitInLoop, checkSyncFile, checkUnboundedQuery, checkJsonCopy,
      same.line_eq, same.followingLines_eq, same.insideFunction_eq]

theorem check_reliabilityRules (same : SameSurroundings first second) {rule : Rule}
    (listed : rule ∈ reliabilityRules) : rule.check first = rule.check second := by
  simp only [reliabilityRules, List.mem_cons, List.not_mem_nil, or_false] at listed
  rcases listed with rfl | rfl | rfl | rfl <;>
    simp only [Check.total, checkUnguardedParse, checkHttpTimeout, checkProcessExit,
      checkDiscardedInterval, same.line_eq, same.filename, same.followingLines_eq,
      same.insideFunction_eq, same.insideExceptionHandler_eq]

theorem check_maintainabilityRules (same : SameSurroundings first second) {rule : Rule}
    (listed : rule ∈ maintainabilityRules) : rule.check first = rule.check second := by
  simp only [maintainabilityRules, List.mem_cons, List.not_mem_nil, or_false] at listed
  rcases listed with rfl | rfl | rfl | rfl <;>
    simp only [Check.total, checkPendingMarker, checkConsoleLog, checkExplicitAny, checkDebugger,
      same.line_eq, same.filename]

theorem check_transactionRules (same : SameSurroundings first second) {rule : Rule}
    (listed : rule ∈ transactionRules) : rule.check first = rule.check second := by
  simp only [transactionRules, List.mem_cons, List.not_mem_nil, or_false] at listed
  rcases listed with rfl | rfl <;>
    simp only [Check.total, checkMultiTableWrite_eq same, checkOuterClient_eq same]

theorem check_tenantRules (same : SameSurroundings first second) {rule : Rule}
    (listed : rule ∈ tenantRules) : rule.check first = rule.check second := by
  simp only [tenantRules, List.mem_cons, List.not_mem_nil, or_false] at listed
  rcases listed with rfl | rfl | rfl <;>
    simp only [Check.total, checkModelQuery, checkRawQuery, checkTenantFromBody, same.line_eq,
      same.filename, same.followingLines_eq]

/-- Built-in rules tell no line from another one with the same surroundings. -/
theorem check_eq_of_sameSurroundings (same : SameSurroundings first second) {rule : Rule}
    (listed : rule ∈ Catalog.standard.rules) : rule.check first = rule.check second := by
  simp only [Catalog.standard, List.mem_append] at listed
  rcases listed with (((((listed | listed) | listed) | listed) | listed) | listed) | listed
  · exact check_securityRules same listed
  · exact check_errorHandlingRules same listed
  · exact check_performanceRules same listed
  · exact check_reliabilityRules same listed
  · exact check_maintainabilityRules same listed
  · exact check_transactionRules same listed
  · exact check_tenantRules same listed

def methodInClass : LineContext where
  lines := ["export class Orders \x7b", "  async place() \x7b",
    "    await this.prisma.order.create(a);",
    "    await this.prisma.item.create(b);", "  \x7d", "\x7d"].map String.toList
  index := 2
  window := { preceding := 0, following := 0, scanLimit := 1 }
  filename := "orders.ts"

def methodAlone : LineContext :=
  { methodInClass with lines := (methodInClass.lines.drop 1).take 3, index := 1 }

theorem check_of_method_in_class :
    SameSurroundings methodInClass methodAlone ∧ ∃ rule ∈ Catalog.standard.rules,
      rule.check methodInClass = rule.check methodAlone ∧
        ∃ finding, rule.check methodAlone = .ok (some finding) := by
  have same : SameSurroundings methodInClass methodAlone :=
    ⟨rfl, rfl, ⟨_, rfl, rfl⟩, by decide, by decide⟩
  obtain ⟨rule, found⟩ := Option.isSome_iff_exists.mp
    (show (Catalog.standard.get? "TXN001").isSome from rfl)
  have total : (Catalog.standard.get? "TXN001").map (·.check) =
      some (.total checkMultiTableWrite) :=
    rfl
  rw [found] at total
  have check : rule.check = .total checkMultiTableWrite := Option.some.inj total
  have listed : rule ∈ Catalog.standard.rules := List.mem_of_find?_eq_some found
  obtain ⟨finding, reported⟩ := Option.isSome_iff_exists.mp
    (show (checkMultiTableWrite methodAlone).isSome = true by decide +kernel)
  exact ⟨same, rule, listed, check_eq_of_sameSurroundings same listed, finding,
    by rw [check, Check.total, reported]⟩

end Compliance
