import GnuLint.Fix.Result

/-!
# What fixing a file did, in one line
-/

namespace GnuLint.FixResult

/-- **The line that says what fixing did**, or would do, for an input and an output. -/
def summary (r : FixResult) (input output : Path) (dryRun : Bool) : String :=
  let fixed := toString r.fixedCount
  let unresolved := toString r.unresolvedCount
  let route := input.toString ++ " -> " ++ output.toString
  if dryRun then
    "[dry-run] Would fix " ++ route ++ " (" ++ fixed ++ " fixes, " ++ unresolved ++
      " unfixable)"
  else if r.fixedCount = 0 then
    "Copied " ++ route ++ " (0 fixes applied, " ++ unresolved ++ " unfixable)"
  else if r.unresolvedCount = 0 then "Fixed " ++ route ++ " (" ++ fixed ++ " fixes applied)"
  else
    "Partially fixed " ++ route ++ " (" ++ fixed ++ " fixes applied, " ++ unresolved ++
      " unfixable)"

end GnuLint.FixResult
