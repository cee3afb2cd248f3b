/-!
# Texts about the program itself

The texts that the program prints when asked for help or for its version.  Both end with a line
end.
-/

namespace ThreeBucket.CommandLine

/-- The name and the version of the program. -/
def versionText : String :=
  "qsort-bench 0.1.0\n"

/-- The description of the program and its options. -/
def helpText : String :=
  "\n".intercalate [
    "Time repeated runs of a stable three-bucket quicksort",
    "",
    "Usage: qsort-bench [OPTIONS]",
    "",
    "Options:",
    "      --config <CONFIG>          TOML file with benchmark settings (flags override it)",
    "  -n, --iterations <ITERATIONS>  Number of timed sorts [default: 1000]",
    "      --size <SIZE>              Input length [default: 100]",
    "      --shape <SHAPE>            Input shape: ascending, descending, duplicates or random",
    "      --seed <SEED>              Seed for the random shape [default: 42]",
    "      --strategy <STRATEGY>      Sort implementation: recursive, work-stack or std",
    "      --warmup <WARMUP>          Untimed sorts before measuring [default: 0]",
    "      --verify                   Check the sorted output after timing",
    "      --format <FORMAT>          Report format: seconds, text, json or csv",
    "  -v, --verbose                  Log run phases to stderr",
    "  -h, --help                     Print help",
    "  -V, --version                  Print version",
    ""]

end ThreeBucket.CommandLine
