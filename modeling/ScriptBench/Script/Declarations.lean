/-!
The type declarations of everything a script may use, for editors that check scripts.
-/
namespace ScriptBench

/-- The lines of the declarations. -/
def declarationLines : List String :=
  ["",
   "/**",
   " * Hostbridge Script API",
   " *",
   " * Available to pre-request and test scripts. Host failures are thrown as",
   " * `HostError` with a stable `kind`.",
   " */",
   "",
   "declare class HostError extends Error \x7b",
   "    kind: \"UnknownOperation\" | \"InvalidArgument\" | \"NetworkError\" | \"Timeout\" | \"Cancelled\" | \"HostError\";",
   "\x7d",
   "",
   "interface KeyValue \x7b",
   "    name: string;",
   "    value: string;",
   "\x7d",
   "",
   "interface HttpRequest \x7b",
   "    method?: string;",
   "    url: string;",
   "    headers?: KeyValue[] | Record<string, string>;",
   "    params?: KeyValue[] | Record<string, string>;",
   "    body?: string | object;",
   "\x7d",
   "",
   "interface HttpResponse \x7b",
   "    status: number;",
   "    headers: KeyValue[];",
   "    text: string;",
   "    /** Present only when the body parses as JSON */",
   "    json?: any;",
   "\x7d",
   "",
   "/**",
   " * Suspend the script.",
   " * @param ms Duration in milliseconds; longer than the host limit throws `InvalidArgument`",
   " */",
   "declare function sleep(ms: number): Promise<void>;",
   "",
   "/** Perform an HTTP request through the host. */",
   "declare function fetch(request: string | HttpRequest, init?: Partial<HttpRequest>): Promise<HttpResponse>;",
   "",
   "/** Record a deep-equality assertion. Returns whether it passed. */",
   "declare function assert(expect: any, actual: any): boolean;",
   "",
   "/** Record an assertion that passes when similarity is strictly above `threshold`. */",
   "declare function assert_nlp(expect: string, actual: string, threshold: number): boolean;",
   "",
   "/** Test case data supplied by the host. */",
   "declare function testcase(): any;",
   "",
   "declare function test<T>(name: string, func: () => T): T;",
   "declare function test_skip(): void;",
   "",
   "declare namespace console \x7b",
   "    function log(...args: any[]): void;",
   "    function info(...args: any[]): void;",
   "    function warn(...args: any[]): void;",
   "    function error(...args: any[]): void;",
   "\x7d",
   "",
   "declare namespace nlp \x7b",
   "    function keywords(text: string, k: number): string[];",
   "    function tags(text: string): \x7b word: string; tag: string \x7d[];",
   "    function tag_filter(text: string, tags: string[]): string[];",
   "    function similarity(a: string, b: string): number;",
   "\x7d",
   "",
   "declare namespace host \x7b",
   "    function get_testcase(): any;",
   "    function set_env(key: string, value: any): void;",
   "    /** `null` when the key is not set */",
   "    function get_env(key: string): string | null;",
   "    function add_header(name: string, value: any): void;",
   "    function add_params(name: string, value: any): void;",
   "    /** Share a value with every other script of the same run. */",
   "    function set_shared(key: string, value: any): void;",
   "    function get_shared(key: string): any;",
   "    /** Wait until another script sets `key`; throws `Timeout` when the wait is bounded out. */",
   "    function wait_shared(key: string): Promise<any>;",
   "    /** Response of the request under test, or `null` before it was sent. */",
   "    function resp(): HttpResponse | null;",
   "    function equal(a: any, b: any): boolean;",
   "    function record(passed: boolean, message: string): void;",
   "    function open_test(name: string): void;",
   "    function close_test(name: string): void;",
   "    /** Run `func` inside a named test block; the block closes on every exit path. */",
   "    function test<T>(name: string, func: () => T): T;",
   "    /** Mark the run skipped; assertions become informational. */",
   "    function test_skip(): void;",
   "\x7d",
   ""]

/-- The declarations as one text. -/
def declarations : String := "\n".intercalate declarationLines

end ScriptBench
