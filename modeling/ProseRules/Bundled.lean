namespace ProseRules

/-!
# Bundled documents

The library comes with a small set of rules and a list of exceptions, which are
used where no other document is asked for.
-/

namespace Bundled

/-- The text of lines that each end in a line feed. -/
def textOfLines (lines : List String) : String :=
  String.join (lines.map (· ++ "\n"))

/-- The bundled rules. -/
def rules : String :=
  textOfLines
    [ "language: en",
      "",
      "phrases:",
      "  make_decision:",
      "    - [\x7bstring: make, inflected: true\x7d, a, decision]",
      "    - [\x7bstring: take, inflected: true\x7d, a, decision]",
      "",
      "rules:",
      "  - id: DOUBLE_WORD",
      "    description: Repeated word",
      "    message: Remove the repeated word <suggestion>\\1</suggestion>.",
      "    short_message: Repeated word",
      "    pattern:",
      "      - \x7bregex: true, string: '[a-z]+'\x7d",
      "      - \x7breference: 1\x7d",
      "    antipatterns:",
      "      - [had, had]",
      "      - [that, that]",
      "",
      "  - id: IN_ORDER_TO",
      "    description: Wordy purpose clause",
      "    message: Use <suggestion>to</suggestion> instead of 'in order to'.",
      "    short_message: Wordy phrase",
      "    pattern: [in, order, to]",
      "",
      "  - id: DECIDE",
      "    description: Nominalized verb",
      "    message: Use <suggestion>decide</suggestion> instead of '\\1'.",
      "    short_message: Use a verb",
      "    pattern:",
      "      - \x7bphraseref: make_decision\x7d",
      "",
      "  - id: UTILIZE",
      "    description: Prefer simple verbs",
      "    message: Use <suggestion>use</suggestion> instead of forms of 'utilize'.",
      "    pattern:",
      "      - \x7bstring: utilize, inflected: true\x7d",
      "",
      "  - id: PLEASE_NOTE",
      "    description: Unnecessary instructions",
      "    rules:",
      "      - message: Remove 'please note' and state the information directly.",
      "        pattern: [please, note]",
      "        mark: \x7bfrom: 0, to: 0\x7d",
      "      - message: Remove 'please' from instructions.",
      "        pattern:",
      "          - please",
      "          - \x7bstring: '(click|select|enter|type)', regex: true\x7d",
      "        mark: \x7bfrom: 0, to: 1\x7d",
      "",
      "  - id: MULTIPLE_SPACES",
      "    description: Repeated spaces",
      "    message: Replace repeated spaces with a single space.",
      "    regex: '\\S( \x7b2,\x7d)\\S'",
      "    regex_mark: 1" ]

/-- The bundled exceptions. -/
def exceptions : String :=
  textOfLines
    [ "# Terms never reported by any rule, and terms ignored per rule type.",
      "global_exceptions:",
      "  - Red Hat",
      "  - OpenShift",
      "",
      "rule_specific_exceptions:",
      "  pattern_rules:",
      "    - e.g." ]

end Bundled

end ProseRules
