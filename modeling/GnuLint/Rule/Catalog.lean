import GnuLint.Rule.RuleSet

/-!
# The builtin catalogue

The rules that come with the program. Each one finds a construct that behaves
differently, or is missing, on a system with BSD tools and bash 3.2; a rule of the
user under the same identifier takes its place.
-/

namespace GnuLint.Catalog

/-! ### The interpreter line -/

/-- The interpreter line that runs the system's own bash. -/
def binBashShebang : Definition where
  id := "bin-bash-shebang"
  name := "#!/bin/bash runs bash 3.2 on macOS"
  description :=
    "macOS ships bash 3.2 at /bin/bash. Scripts that need a newer bash should locate it " ++
      "through env."
  severity := some "info"
  pattern := "^#!\\s*/bin/bash\\b"
  strategy := some "suggest"
  template := some "#!/usr/bin/env bash"
  rationale :=
    some <| "Switching interpreters changes which bash runs the script; only do this when a " ++
      "newer bash is installed."
  tags := ["shebang", "bash"]

/-! ### Echo -/

/-- Echo asked to read escapes. -/
def echoEscape : Definition where
  id := "echo-escape"
  name := "echo -e is not portable"
  description :=
    "sh on macOS prints -e literally; escape handling differs between echo implementations."
  severity := some "warning"
  pattern := "\\becho\\s+-e\\b"
  strategy := some "suggest"
  template := some "printf '%b\\n' ..."
  rationale := some "printf needs the format string restructured around the existing arguments."
  examples := some {
    bad := "echo -e \"a\\tb\""
    good := "printf 'a\\tb\\n' " }
  tags := ["echo"]

/-! ### Sed -/

/-- Sed editing in place without a backup suffix. -/
def sedInplaceNoBackup : Definition where
  id := "sed-inplace-no-backup"
  name := "sed -i without a backup suffix"
  description :=
    "BSD sed treats the next argument to -i as the backup suffix, so `sed -i 's/a/b/' f` " ++
      "fails on macOS."
  severity := some "error"
  pattern := "\\bsed\\s+-i\\s+"
  negativePattern := some "\\bsed\\s+-i\\s+(''|\"\")"
  strategy := some "replace"
  template := some "sed -i.bak "
  examples := some {
    bad := "sed -i 's/a/b/' file"
    good := "sed -i.bak 's/a/b/' file" }
  tags := ["sed"]

/-- Sed with the other letter for extended patterns. -/
def sedExtendedR : Definition where
  id := "sed-extended-r"
  name := "sed -r is GNU-only"
  description := "BSD sed spells extended regular expressions -E, which GNU sed also accepts."
  severity := some "error"
  pattern := "\\bsed\\s+-r\\b"
  strategy := some "replace"
  template := some "sed -E"
  tags := ["sed"]

/-! ### Grep -/

/-- Grep with a Perl pattern. -/
def grepPerlRegex : Definition where
  id := "grep-perl-regex"
  name := "grep -P is GNU-only"
  description := "BSD grep has no PCRE mode. Simple patterns translate to -E with POSIX classes."
  severity := some "error"
  pattern := "\\bgrep\\s+-P\\s"
  strategy := some "transform"
  template := some "grep -E"
  rationale :=
    some <| "The pattern uses PCRE features (lookaround, \\b, \\K, backreferences, lazy " ++
      "quantifiers) with no ERE equivalent."
  rewrite := some "grep-perl-to-extended"
  examples := some {
    bad := "grep -P '\\d+' file"
    good := "grep -E '[0-9]+' file" }
  tags := ["grep", "regex"]

/-- Grep with a Perl pattern among other flags. -/
def grepOnlyMatchingP : Definition where
  id := "grep-only-matching-P"
  name := "grep with combined -P flags is GNU-only"
  description := "Flag clusters such as -oP rely on GNU grep's PCRE mode."
  severity := some "error"
  pattern := "\\bgrep\\s+-(?:[a-zA-Z]+P[a-zA-Z]*|P[a-zA-Z]+)\\s"
  strategy := some "transform"
  template := some "grep -E"
  rationale :=
    some <| "The pattern uses PCRE features (lookaround, \\b, \\K, backreferences, lazy " ++
      "quantifiers) with no ERE equivalent."
  rewrite := some "grep-perl-to-extended"
  tags := ["grep", "regex"]

/-! ### Paths -/

/-- Readlink asked for a canonical path. -/
def readlinkCanonicalize : Definition where
  id := "readlink-canonicalize"
  name := "readlink -f is not available on older macOS"
  description := "BSD readlink gained -f only in macOS 12.3."
  severity := some "error"
  pattern := "\\breadlink\\s+-[a-zA-Z]*[fem]\\b"
  strategy := some "function"
  template :=
    some <| "resolve_path() \x7b cd \"$(dirname \"$1\")\" && printf '%s/%s\\n' \"$(pwd -P)\" " ++
      "\"$(basename \"$1\")\"; \x7d"
  rationale :=
    some <| "Needs a helper function defined in the script; the call site cannot be rewritten " ++
      "in place."
  tags := ["paths"]

/-- Realpath without a check that it is there. -/
def realpathUnchecked : Definition where
  id := "realpath-unchecked"
  name := "realpath used without an availability check"
  description := "realpath is missing on macOS before 13 unless coreutils is installed."
  severity := some "info"
  pattern := "\\brealpath\\s+"
  negativePattern := some "command\\s+-v\\s+realpath"
  strategy := some "suggest"
  rationale := some "Guard with `command -v realpath` or fall back to a cd/pwd -P helper."
  tags := ["paths"]

/-! ### Dates, files and searches -/

/-- Date reading a date. -/
def dateDEpoch : Definition where
  id := "date-d-epoch"
  name := "date -d is GNU-only"
  description := "BSD date parses input dates with -j -f FORMAT and reads epoch seconds with -r."
  severity := some "error"
  pattern := "\\bdate\\s+(?:-[a-zA-Z]+\\s+)*(?:-d\\b|--date\\b)"
  strategy := some "suggest"
  template := some "date -j -f FORMAT STRING / date -r EPOCH"
  rationale := some "The input format has to be spelled out for BSD date."
  tags := ["date"]

/-- Date printing nanoseconds. -/
def dateNanoseconds : Definition where
  id := "date-nanoseconds"
  name := "date +%N is GNU-only"
  description := "BSD date prints a literal N for %N."
  severity := some "warning"
  pattern := "\\bdate\\s+[^|;&]*%N"
  strategy := some "suggest"
  rationale := some "Sub-second timestamps need perl, python or gdate on macOS."
  tags := ["date"]

/-- Stat with a format. -/
def statFormatC : Definition where
  id := "stat-format-c"
  name := "stat -c is GNU-only"
  description := "BSD stat uses -f with different format specifiers."
  severity := some "error"
  pattern := "\\bstat\\s+(?:-L\\s+)?(?:-c\\b|--format\\b|--printf\\b)"
  strategy := some "suggest"
  template := some "stat -f FORMAT"
  rationale := some "GNU and BSD format specifiers differ (%s vs %z for size)."
  tags := ["stat"]

/-- Find printing with a format. -/
def findPrintf : Definition where
  id := "find-printf"
  name := "find -printf is GNU-only"
  description := "BSD find has no -printf action."
  severity := some "error"
  pattern := "\\bfind\\b.*\\s-printf\\b"
  strategy := some "suggest"
  template := some "find ... -exec stat -f FORMAT \x7b\x7d +"
  rationale := some "Output formatting has to move to stat or a loop."
  tags := ["find"]

/-! ### Programs that may be missing -/

/-- A checksum program. -/
def sha256sum : Definition where
  id := "sha256sum"
  name := "sha256sum is not installed on macOS"
  description := "shasum ships with both macOS and most Linux distributions."
  severity := some "warning"
  pattern := "\\bsha256sum\\b"
  negativePattern := some "command\\s+-v\\s+sha256sum"
  strategy := some "replace"
  template := some "shasum -a 256"
  tags := ["coreutils"]

/-- Another checksum program. -/
def md5sum : Definition where
  id := "md5sum"
  name := "md5sum is not installed on macOS"
  description := "macOS provides md5 instead; `md5 -r` prints the same column order."
  severity := some "warning"
  pattern := "\\bmd5sum\\b"
  negativePattern := some "command\\s+-v\\s+md5sum"
  strategy := some "suggest"
  template := some "md5 -r"
  rationale := some "md5 is not available on Linux, so a replacement has to branch on the platform."
  tags := ["coreutils"]

/-- The number of processors. -/
def nproc : Definition where
  id := "nproc"
  name := "nproc is not installed on macOS"
  description := "getconf _NPROCESSORS_ONLN works on both macOS and Linux."
  severity := some "warning"
  pattern := "\\bnproc\\b(?:\\s+--all)?"
  strategy := some "replace"
  template := some "getconf _NPROCESSORS_ONLN"
  tags := ["coreutils"]

/-- A command with a time limit. -/
def timeoutCommand : Definition where
  id := "timeout-command"
  name := "timeout is not installed on macOS"
  description := "timeout comes from GNU coreutils (gtimeout under Homebrew)."
  severity := some "warning"
  pattern := "\\btimeout\\s+(?:-[a-zA-Z-]+\\s+)*[0-9]"
  strategy := some "suggest"
  rationale := some "Needs a platform check or a background-and-kill helper."
  tags := ["coreutils"]

/-- Base 64 with a line width. -/
def base64Wrap : Definition where
  id := "base64-wrap"
  name := "base64 -w is GNU-only"
  description := "BSD base64 uses -b for line breaks and does not wrap by default."
  severity := some "warning"
  pattern := "\\bbase64\\s+(?:-[a-zA-Z]+\\s+)*(?:-w\\s*[0-9]+|--wrap\\b)"
  strategy := some "suggest"
  template := some "base64 | tr -d '\\n'"
  rationale :=
    some "The GNU and BSD flags are mutually unknown; drop the flag and strip newlines instead."
  tags := ["coreutils"]

/-- Head with a negative count. -/
def headNegativeCount : Definition where
  id := "head-negative-count"
  name := "head -n with a negative count is GNU-only"
  description := "BSD head rejects negative line counts."
  severity := some "warning"
  pattern := "\\bhead\\s+-n\\s*-[0-9]"
  strategy := some "suggest"
  template := some "sed '$d' (drop last line) or awk"
  rationale := some "Dropping trailing lines needs a different tool."
  tags := ["coreutils"]

/-- Xargs told to do nothing without input. -/
def xargsNoRunIfEmpty : Definition where
  id := "xargs-no-run-if-empty"
  name := "xargs -r is GNU-only"
  description := "BSD xargs never runs the command on empty input, and older versions reject -r."
  severity := some "warning"
  pattern := "\\bxargs\\s+(?:-[a-zA-Z]+\\s+)*-r\\b"
  strategy := some "suggest"
  rationale := some "Removing -r is only safe once the input is known to be non-empty on Linux too."
  tags := ["coreutils"]

/-! ### Features of later shells -/

/-- Associative arrays. -/
def bash4AssociativeArray : Definition where
  id := "bash4-associative-array"
  name := "Associative arrays need bash 4"
  description := "declare -A fails under the bash 3.2 that /bin/bash runs on macOS."
  severity := some "error"
  pattern := "\\b(?:declare|typeset|local)\\s+-[a-zA-Z]*A"
  shebangMatch := some "^#!\\s*/bin/bash\\b"
  strategy := some "suggest"
  template := some "#!/usr/bin/env bash (with bash >= 4 installed)"
  rationale :=
    some "bash 3.2 has no associative arrays; restructure the data or require a newer bash."
  tags := ["bash4"]

/-- Reading a file into an array. -/
def bash4Mapfile : Definition where
  id := "bash4-mapfile"
  name := "mapfile/readarray need bash 4"
  description := "mapfile and readarray do not exist in bash 3.2."
  severity := some "error"
  pattern := "\\b(?:mapfile|readarray)\\b"
  shebangMatch := some "^#!\\s*/bin/bash\\b"
  strategy := some "suggest"
  template := some "while IFS= read -r line; do arr+=(\"$line\"); done < file"
  rationale := some "Needs a read loop in place of the builtin."
  tags := ["bash4"]

/-- Expansions that change case. -/
def bash4CaseModification : Definition where
  id := "bash4-case-modification"
  name := "$\x7bvar^^\x7d / $\x7bvar,,\x7d need bash 4"
  description := "Case-modifying parameter expansion does not exist in bash 3.2."
  severity := some "error"
  pattern := "\\$\\\x7b[A-Za-z_][A-Za-z0-9_]*(?:\\^\\^?|,,?)\\\x7d"
  shebangMatch := some "^#!\\s*/bin/bash\\b"
  strategy := some "suggest"
  template := some "$(printf '%s' \"$var\" | tr '[:lower:]' '[:upper:]')"
  rationale := some "Needs tr or awk to change case."
  tags := ["bash4"]

/-- Appending both outputs to a file. -/
def bash4AppendRedirect : Definition where
  id := "bash4-append-redirect"
  name := "&>> needs bash 4"
  description := "The combined append redirection was added in bash 4."
  severity := some "error"
  pattern := "&>>"
  shebangMatch := some "^#!\\s*/bin/bash\\b"
  strategy := some "suggest"
  template := some ">> file 2>&1"
  rationale := some "The redirect target has to move in front of 2>&1."
  tags := ["bash4"]

/-! ### The catalogue -/

/-- The definitions of the catalogue, in order. -/
def definitions : List Definition :=
  [binBashShebang, echoEscape, sedInplaceNoBackup, sedExtendedR, grepPerlRegex,
   grepOnlyMatchingP, readlinkCanonicalize, realpathUnchecked, dateDEpoch,
   dateNanoseconds, statFormatC, findPrintf, sha256sum, md5sum, nproc, timeoutCommand,
   base64Wrap, headNegativeCount, xargsNoRunIfEmpty, bash4AssociativeArray, bash4Mapfile,
   bash4CaseModification, bash4AppendRedirect]

/-- **The rules of the catalogue.** -/
def rules : RuleSet :=
  RuleSet.ofRules (definitions.filterMap fun d => (Rule.ofDefinition d).toOption)

end GnuLint.Catalog
