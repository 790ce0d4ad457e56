/-!
The part of a generated script that is the same for every machine: the functions that reset it, search
an input and dispatch a label, over the table and the settings that stand around them.
-/
namespace ArrowMachine.Script

/-- The functions of a generated machine, line by line. -/
def engine : List String := [
    "reset: function () \x7b",
    "    this.state = this.initial;",
    "    this.stacks = [];",
    "    for (var i = 0; i < this.stackCount; i++) this.stacks.push([]);",
    "    this.input = [];",
    "    this.halted = false;",
    "    return this;",
    "\x7d,",
    "inAcceptState: function () \x7b",
    "    return this.input.length === 0 && this.acceptStates.indexOf(this.state) !== -1;",
    "\x7d,",
    "_possibleTransitions: function (snapshot) \x7b",
    "    var entries = this.transitions[snapshot.state] || [];",
    "    var head = snapshot.input.length ? snapshot.input[0] : null;",
    "    var result = [];",
    "    for (var i = 0; i < entries.length; i++) \x7b",
    "        var entry = entries[i];",
    "        if (entry.input !== \"_\" && entry.input !== head) continue;",
    "        var ok = true;",
    "        for (var c = 0; c < entry.reads.length; c++) \x7b",
    "            var read = entry.reads[c];",
    "            if (read === null || read === \"_\") continue;",
    "            var stack = snapshot.stacks[c];",
    "            if (!stack.length || stack[stack.length - 1] !== read) \x7b",
    "                ok = false;",
    "                break;",
    "            \x7d",
    "        \x7d",
    "        if (ok) result.push(entry);",
    "    \x7d",
    "    return result;",
    "\x7d,",
    "_clone: function (snapshot) \x7b",
    "    return \x7b",
    "        state: snapshot.state,",
    "        stacks: snapshot.stacks.map(function (s) \x7b return s.slice(); \x7d),",
    "        input: snapshot.input.slice(),",
    "        halted: snapshot.halted",
    "    \x7d;",
    "\x7d,",
    "_workload: function (snapshot) \x7b",
    "    var total = snapshot.input.length;",
    "    for (var i = 0; i < snapshot.stacks.length; i++) total += snapshot.stacks[i].length;",
    "    return total;",
    "\x7d,",
    "_accepts: function (snapshot) \x7b",
    "    return !snapshot.halted && snapshot.input.length === 0 && this.acceptStates.indexOf(snapshot.state) !== -1;",
    "\x7d,",
    "_adopt: function (snapshot) \x7b",
    "    this.state = snapshot.state;",
    "    this.stacks = snapshot.stacks;",
    "    this.input = snapshot.input;",
    "    this.halted = snapshot.halted;",
    "    return this;",
    "\x7d,",
    "dispatch: function (label) \x7b",
    "    var entries = this._possibleTransitions(\x7bstate: this.state, stacks: this.stacks, input: [label]\x7d);",
    "    for (var i = 0; i < entries.length; i++) \x7b",
    "        if (entries[i].input === label) \x7b",
    "            entries[i].fn.call(this, false);",
    "            this.halted = false;",
    "            return;",
    "        \x7d",
    "    \x7d",
    "    if (this.strict) \x7b",
    "        throw new Error(\"Invalid action '\" + label + \"' from state '\" + this.state + \"'\");",
    "    \x7d",
    "\x7d,",
    "consume: function (input, options) \x7b",
    "    if (options && options.reset) this.reset();",
    "    if (typeof input === \"string\") input = input.split(\"\");",
    "    var seed = this._clone(\x7bstate: this.state, stacks: this.stacks, input: input, halted: false\x7d);",
    "    if (this._accepts(seed)) return this._adopt(seed);",
    "    var pending = [seed];",
    "    var exhausted = seed;",
    "    var explored = \x7b\x7d;",
    "    var steps = 0;",
    "    while (pending.length) \x7b",
    "        if (this.maxSteps && steps >= this.maxSteps) break;",
    "        var snapshot = pending.pop();",
    "        if (this.prune) \x7b",
    "            var key = JSON.stringify([snapshot.state, snapshot.stacks, snapshot.input.length]);",
    "            if (Object.prototype.hasOwnProperty.call(explored, key)) continue;",
    "            explored[key] = true;",
    "        \x7d",
    "        steps++;",
    "        var matches = this._possibleTransitions(snapshot);",
    "        if (!matches.length) \x7b",
    "            snapshot.halted = true;",
    "            if (this._workload(snapshot) < this._workload(exhausted)) exhausted = snapshot;",
    "        \x7d else if (matches.length === 1) \x7b",
    "            if (snapshot === exhausted) snapshot = this._clone(snapshot);",
    "            matches[0].fn.call(snapshot, true);",
    "            if (this._accepts(snapshot)) return this._adopt(snapshot);",
    "            if (this._workload(snapshot) < this._workload(exhausted)) exhausted = snapshot;",
    "            pending.push(snapshot);",
    "        \x7d else \x7b",
    "            for (var m = 0; m < matches.length; m++) \x7b",
    "                var branch = this._clone(snapshot);",
    "                matches[m].fn.call(branch, true);",
    "                if (this._accepts(branch)) return this._adopt(branch);",
    "                if (this._workload(branch) < this._workload(exhausted)) exhausted = branch;",
    "                pending.push(branch);",
    "            \x7d",
    "        \x7d",
    "    \x7d",
    "    return this._adopt(exhausted);",
    "\x7d"]

end ArrowMachine.Script
