import Shrimp.Docs.Lines

/-!
# The templates file (`doc_output/references/TEMPLATES.md`)

The file that ships with the engine, line by line.

## Main definitions

* `templatesMd` — the content of the file.
-/

namespace Shrimp
namespace Docs

/-- The characters of a text. -/
def chars (s : String) {l : Text} (_ : s = String.ofList l) : Text := l

set_option maxRecDepth 10000

/-- The title of the file and the guide to its figures. -/
def templatesGuide : List Text := [
  chars "# 文档模板库" rfl,
  [],
  chars "本文档定义各类文档的模板结构。" rfl,
  [],
  chars "---" rfl,
  [],
  chars "## 0. 图表（Mermaid）使用指引" rfl,
  [],
  chars "> **v2.3.0 新增**：把 `\x7b\x7binclude_diagram\x7d\x7d` 由\"自由占位\"升级为\"按场景选 mermaid" rfl ++
    chars " 块\"。" rfl,
  chars "> **强度**：建议级（warning），未达成不阻塞输出；硬阈值由 pm_agent Gate 1.5.7~1.5.9 检查。" rfl,
  chars "> **示例**：§1~§6 各 doc_type 模板均含 `\x7b\x7binclude_diagram\x7d\x7d` 占位 —— tech_re" rfl ++
    chars "view/design_doc 含 D-ARCH+D-SEQ（+D-CLASS），module_plan/research_report/task_plan" rfl ++
    chars "/test_plan 含 D-DAG（v2.6 Phase 1 起补齐）。" rfl,
  chars ">" rfl,
  chars "> **v2.4.0 新增（飞书画板自动升级规则）**：当 doc_output 把产物发布到飞书 docx 后，`chart_publisher.publ" rfl ++
    chars "ish_chart()` 会**按图代号挑选**是否自动把 mermaid 块升级成可交互的飞书画板：" rfl,
  chars ">" rfl,
  chars "> | 图代号 | 飞书发布后是否自动升级为画板 | 原因 |" rfl,
  chars "> |---|---|---|" rfl,
  chars "> | **D-ARCH** | ✅ 升级 | 评审场景高频展示，inline 互动价值最高 |" rfl,
  chars "> | **D-SEQ** | ✅ 升级 | 时序图分支多，互动看节点比 SVG 友好 |" rfl,
  chars "> | **D-DAG** | ✅ 升级 | 模块依赖图常需点开节点看任务详情 |" rfl,
  chars "> | D-CLASS | ❌ 保留 mermaid | 字段表为主，互动需求低；mermaid 渲染已够清晰 |" rfl,
  chars "> | D-STATE | ❌ 保留 mermaid | 状态机文本注解多，画板转换会丢标签语义 |" rfl,
  chars "> | D-DECISION | ❌ 保留 mermaid | 短决策树，inline mermaid 比画板更紧凑 |" rfl,
  chars "> | D-ERR | ❌ 保留 mermaid | 错误码流程通常嵌在错误码定义表附近，宜紧凑 |" rfl,
  chars "> | D-REVERSE-SEQ | ❌ 保留 mermaid | 同 D-SEQ 类，但 `Note over` 注解在画板里渲染不稳 |" rfl,
  chars "> | D-GANTT / D-MIND / D-MATRIX | ❌ 保留 mermaid | 飞书画板对这三类原生支持弱，转 DSL 收益低 |" rfl,
  chars ">" rfl,
  chars "> 升级后，原 mermaid 块**仍保留在本地 markdown ground truth 中**（作版本控制、diff、跨工具复用）；飞书 docx " rfl ++
    chars "里只追加 `<whiteboard token=\"...\"/>` 引用 + 由 chart_publisher round-trip 验证一致。" rfl,
  chars ">" rfl,
  chars "> **如果用户/PM 要求把某类暂未升级的图也升级**：在 `chart_publisher.py` 的 `SUPPORTED_TYPES` 集合里加上对" rfl ++
    chars "应 mermaid 类型即可；不需要改本表。" rfl,
  [],
  chars "### 0.1 P0：必须出现的图表类型" rfl,
  [],
  chars "| 图代号 | 触发场景 | mermaid 关键字 | 放置文档 |" rfl,
  chars "|--------|---------|----------------|---------|" rfl,
  chars "| **D-ARCH**：系统架构图 | 涉及 ≥ 2 个服务/模块/层级 | `flowchart TB` + `subgraph` 分层 | tech_" rfl ++
    chars "review §2.1 / design_doc §2.1.1 |" rfl,
  chars "| **D-SEQ**：正向时序图 | 涉及跨进程/跨模块接口调用 | `sequenceDiagram` | tech_review §2 新增 §2.3" rfl ++
    chars " / design_doc §2.1.2 |" rfl,
  chars "| **D-DECISION**：决策树 | 涉及路由/分发/判定逻辑 | `flowchart TD` + 菱形 `\x7b\x7d` 判定 | SPEC" rfl ++
    chars ".md `CONTRACT` 表后 / tech_review §3 |" rfl,
  chars "| **D-CLASS**：数据模型类图 | 涉及 ≥ 2 个相关数据结构 | `classDiagram` 或 `erDiagram` | SPEC.md" rfl ++
    chars " `DATA_MODEL` / tech_review §5 |" rfl,
  chars "| **D-DAG**：模块依赖 DAG | 模块/任务有依赖关系 | `flowchart LR` 或 `flowchart TD` + `subgrap" rfl ++
    chars "h Phase-N` | module_plan §2.1 / task_plan §2 |" rfl,
  [],
  chars "### 0.2 P1：强烈建议的图表类型" rfl,
  [],
  chars "| 图代号 | 触发场景 | mermaid 关键字 |" rfl,
  chars "|--------|---------|----------------|" rfl,
  chars "| **D-STATE**：状态机 | 数据结构含明显生命周期（Created → Running → Done） | `stateDiagram-v2` " rfl ++
    chars "|" rfl,
  chars "| **D-SWIM**：泳道图 | 同一流程跨 ≥ 3 个责任角色 | `sequenceDiagram` + `box` 分组 |" rfl,
  chars "| **D-ERR**：错误处理流程 | 错误码 ≥ 3 个且有分流处理 | `flowchart LR` |" rfl,
  chars "| **D-REVERSE-SEQ**：逆向/异步时序 | 含 ACK 回传、回调、补偿等 | `sequenceDiagram` + `Note over" rfl ++
    chars "` |" rfl,
  [],
  chars "### 0.3 P2：按需补充" rfl,
  [],
  chars "| 图代号 | 触发场景 | mermaid 关键字 |" rfl,
  chars "|--------|---------|----------------|" rfl,
  chars "| **D-GANTT**：甘特图 | 涉及多阶段时间排期 | `gantt` |" rfl,
  chars "| **D-MIND**：思维导图 | 概念发散/分类 | `mindmap` |" rfl,
  chars "| **D-MATRIX**：风险矩阵 | 风险条目 ≥ 3 且需 2D 落位 | Markdown 表格 + emoji（mermaid 不直接支持） |" rfl,
  [],
  chars "### 0.4 复用模板（直接 copy 即可）" rfl,
  [],
  chars "#### D-ARCH 系统架构图骨架" rfl,
  [],
  chars "```mermaid" rfl,
  chars "flowchart TB" rfl,
  chars "    subgraph Client[\"接入层\"]" rfl,
  chars "        A1[Web SDK]" rfl,
  chars "        A2[Mobile SDK]" rfl,
  chars "    end" rfl,
  chars "    subgraph Gateway[\"网关层\"]" rfl,
  chars "        B1[Edge Gateway]" rfl,
  chars "        B2[Route Engine]" rfl,
  chars "    end" rfl,
  chars "    subgraph Core[\"核心服务层\"]" rfl,
  chars "        C1[业务服务A]" rfl,
  chars "        C2[业务服务B]" rfl,
  chars "    end" rfl,
  chars "    subgraph Storage[\"存储层\"]" rfl,
  chars "        D1[(主库)]" rfl,
  chars "        D2[(缓存)]" rfl,
  chars "    end" rfl,
  chars "    A1 --> B1" rfl,
  chars "    A2 --> B1" rfl,
  chars "    B1 --> B2" rfl,
  chars "    B2 --> C1" rfl,
  chars "    B2 --> C2" rfl,
  chars "    C1 --> D1" rfl,
  chars "    C1 --> D2" rfl,
  chars "```" rfl,
  [],
  chars "#### D-SEQ 正向时序图骨架" rfl,
  [],
  chars "```mermaid" rfl,
  chars "sequenceDiagram" rfl,
  chars "    autonumber" rfl,
  chars "    participant C as Caller" rfl,
  chars "    participant G as Gateway" rfl,
  chars "    participant S as Service" rfl,
  chars "    participant DB as DB" rfl,
  chars "    C->>G: Request(args)" rfl,
  chars "    G->>S: Forward" rfl,
  chars "    S->>DB: Query" rfl,
  chars "    DB-->>S: Rows" rfl,
  chars "    S-->>G: Response" rfl,
  chars "    G-->>C: Result" rfl,
  chars "```" rfl,
  [],
  chars "#### D-DECISION 决策树骨架" rfl,
  [],
  chars "```mermaid" rfl,
  chars "flowchart TD" rfl,
  chars "    Start([Input]) --> A\x7b条件1?\x7d" rfl,
  chars "    A -- Yes --> B\x7b条件2?\x7d" rfl,
  chars "    A -- No --> Fallback[降级路径]" rfl,
  chars "    B -- Yes --> Path1[路径1]" rfl,
  chars "    B -- No --> Path2[路径2]" rfl,
  chars "    Path1 --> End([Output])" rfl,
  chars "    Path2 --> End" rfl,
  chars "    Fallback --> End" rfl,
  chars "```" rfl,
  [],
  chars "#### D-CLASS 数据模型类图骨架" rfl,
  [],
  chars "```mermaid" rfl,
  chars "classDiagram" rfl,
  chars "    class Entity \x7b" rfl,
  chars "        +string id" rfl,
  chars "        +string name" rfl,
  chars "        +Method1() void" rfl,
  chars "    \x7d" rfl,
  chars "    class Child \x7b" rfl,
  chars "        +string parentId" rfl,
  chars "        +int order" rfl,
  chars "    \x7d" rfl,
  chars "    Entity \"1\" --> \"N\" Child : owns" rfl,
  chars "```" rfl,
  [],
  chars "#### D-DAG 模块依赖 DAG 骨架" rfl,
  [],
  chars "```mermaid" rfl,
  chars "flowchart TD" rfl,
  chars "    subgraph Phase1[\"Phase-1（并行）\"]" rfl,
  chars "        M1[模块A]" rfl,
  chars "        M2[模块B]" rfl,
  chars "    end" rfl,
  chars "    subgraph Phase2[\"Phase-2\"]" rfl,
  chars "        M3[模块C]" rfl,
  chars "    end" rfl,
  chars "    M1 --> M3" rfl,
  chars "    M2 --> M3" rfl,
  chars "```" rfl,
  [],
  chars "#### D-STATE 状态机骨架" rfl,
  [],
  chars "```mermaid" rfl,
  chars "stateDiagram-v2" rfl,
  chars "    [*] --> Created" rfl,
  chars "    Created --> Running : start" rfl,
  chars "    Running --> Done : success" rfl,
  chars "    Running --> Failed : error" rfl,
  chars "    Failed --> Running : retry" rfl,
  chars "    Done --> [*]" rfl,
  chars "    Failed --> [*] : give up" rfl,
  chars "```" rfl,
  [],
  chars "### 0.5 占位语义（runner 替换规则）" rfl,
  [],
  chars "- `\x7b\x7binclude_diagram\x7d\x7d`：单图占位，应替换为**符合上下文的 1 个** mermaid 代码块。templa" rfl ++
    chars "te_engine 会替换为 `GENERIC` 代号的 stub，调用方按上下文挑选 D-XXX 代号填入。" rfl,
  chars "- `\x7b\x7binclude_diagram:D-ARCH\x7d\x7d` / `\x7b\x7binclude_diagram:D-SEQ" rfl ++
    chars "\x7d\x7d` / 等：显式指定图代号，runner **必须**按 §0.4 骨架生成对应类型。" rfl,
  chars "- `\x7b\x7binclude_diagram:multi\x7d\x7d`：多图位，template_engine 会展开为 D-ARCH + D-" rfl ++
    chars "SEQ 两个 stub（典型 tech_review §2 用法），调用方分别填入。" rfl,
  [],
  chars "> v2.6 Phase 3 起以上三种形式**都**会被 template_engine 替换为带 sentinel 的 mermaid stub（不再静" rfl ++
    chars "默丢弃）；sentinel 内首行格式：` ```mermaid` 块开头 `%% DOC_OUTPUT_DIAGRAM_PLACEHOLDER <code" rfl ++
    chars ">` —— 调用方可用 `DocOutput.count_unfilled_diagrams()` 在填图后 re-check 是否归 0。旧 sentin" rfl ++
    chars "el `%% PLACEHOLDER` 仍兼容计数。" rfl,
  [],
  chars "### 0.6 生成原则" rfl,
  [],
  chars "1. **机械合成优先**：能从结构化字段（模块表/接口表/数据结构表）直接映射的图，不要让 LLM 自由发挥。" rfl,
  chars "2. **节点命名复用文档中的实体名**：架构图节点 ID 必须等于 §核心组件 表里的\"组件名称\"。" rfl,
  chars "3. **不要补造业务实体**：mermaid 中只能出现 PRD/SPEC 已定义的实体，禁止凭空添加。" rfl,
  chars "4. **每图配 1 行说明**：mermaid 块前一行加 `> 图说明：xxx`，方便评审人快速理解。" rfl,
  chars "5. **失败回退**：mermaid 渲染失败（语法错误等）→ runner 应保留源码块 + 加 `<!-- TODO: mermaid 渲染失败，待补" rfl ++
    chars " -->` 注释，不要静默删除。" rfl,
  [],
  chars "---" rfl,
  []]

/-- `## 1. tech_review`. -/
def techReviewSection : List Text := [
  chars "## 1. tech_review（技术评审文档）" rfl,
  [],
  chars "### 适用场景" rfl,
  chars "PM-Agent技术评审阶段输出，或通过CC Lead分析代码仓库后生成。" rfl,
  [],
  chars "### 模板结构" rfl,
  [],
  chars "```markdown" rfl,
  chars "# 技术评审文档" rfl,
  [],
  chars "## 基本信息" rfl,
  [],
  chars "| 项目 | 内容 |" rfl,
  chars "|------|------|" rfl,
  chars "| 文档标题 | \x7b\x7btitle\x7d\x7d |" rfl,
  chars "| 版本 | \x7b\x7bversion\x7d\x7d |" rfl,
  chars "| 日期 | \x7b\x7bdate\x7d\x7d |" rfl,
  chars "| 作者 | \x7b\x7bauthor\x7d\x7d |" rfl,
  chars "| 状态 | \x7b\x7bstatus\x7d\x7d |" rfl,
  [],
  chars "## 1. 需求概述" rfl,
  [],
  chars "### 1.1 功能需求" rfl,
  [],
  chars "【本章节内容来源：\x7b\x7bcontent_source_1\x7d\x7d】" rfl,
  [],
  chars "| 需求ID | 需求名称 | 优先级 | 简要描述 |" rfl,
  chars "|--------|----------|--------|----------|" rfl,
  chars "| FR-001 | | P0 | |" rfl,
  chars "| FR-002 | | P1 | |" rfl,
  [],
  chars "### 1.2 非功能需求" rfl,
  [],
  chars "【本章节内容来源：\x7b\x7bcontent_source_2\x7d\x7d】" rfl,
  [],
  chars "| 需求类型 | 具体要求 |" rfl,
  chars "|----------|----------|" rfl,
  chars "| 性能 | |" rfl,
  chars "| 可靠性 | |" rfl,
  chars "| 安全 | |" rfl,
  chars "| 可扩展性 | |" rfl,
  [],
  chars "## 2. 技术架构方案" rfl,
  [],
  chars "### 2.1 整体架构" rfl,
  [],
  chars "【本章节内容来源：\x7b\x7bcontent_source_3\x7d\x7d】" rfl,
  [],
  chars "#### 架构图" rfl,
  chars "\x7b\x7binclude_diagram:D-ARCH\x7d\x7d" rfl,
  [],
  chars "> 说明：必须按 §0.4 D-ARCH 骨架生成；节点 ID 必须复用下方\"核心组件\"表中的组件名称。" rfl,
  [],
  chars "#### 核心组件" rfl,
  [],
  chars "| 组件名称 | 职责 | 技术选型 |" rfl,
  chars "|----------|------|----------|" rfl,
  chars "| | | |" rfl,
  [],
  chars "#### 关键接口时序" rfl,
  chars "\x7b\x7binclude_diagram:D-SEQ\x7d\x7d" rfl,
  [],
  chars "> 说明：选 1~2 个最关键的接口（如主链路写入、跨模块查询）画时序图；participant 必须复用上方核心组件名。" rfl,
  [],
  chars "### 2.2 模块划分" rfl,
  [],
  chars "【本章节内容来源：\x7b\x7bcontent_source_4\x7d\x7d】" rfl,
  [],
  chars "| 模块ID | 模块名称 | 职责 | 依赖模块 |" rfl,
  chars "|--------|----------|------|----------|" rfl,
  chars "| MOD-001 | | | |" rfl,
  [],
  chars "## 3. 技术选型" rfl,
  [],
  chars "### 3.1 技术栈" rfl,
  [],
  chars "【本章节内容来源：\x7b\x7bcontent_source_5\x7d\x7d】" rfl,
  [],
  chars "| 层级 | 技术 | 版本 | 说明 |" rfl,
  chars "|------|------|------|------|" rfl,
  chars "| 语言 | | | |" rfl,
  chars "| 框架 | | | |" rfl,
  chars "| 中间件 | | | |" rfl,
  chars "| 存储 | | | |" rfl,
  [],
  chars "### 3.2 技术选型理由" rfl,
  [],
  chars "【本章节内容来源：\x7b\x7bcontent_source_6\x7d\x7d】" rfl,
  [],
  chars "## 4. 接口定义" rfl,
  [],
  chars "### 4.1 对外接口" rfl,
  [],
  chars "【本章节内容来源：\x7b\x7bcontent_source_7\x7d\x7d】" rfl,
  [],
  chars "| 接口ID | 接口名称 | 请求 | 响应 | 说明 |" rfl,
  chars "|--------|----------|------|------|------|" rfl,
  chars "| API-001 | | | | |" rfl,
  [],
  chars "### 4.2 内部接口" rfl,
  [],
  chars "| 接口ID | 接口名称 | 调用方 | 实现方 | 说明 |" rfl,
  chars "|--------|----------|--------|--------|------|" rfl,
  chars "| INT-001 | | | | |" rfl,
  [],
  chars "## 5. 数据模型" rfl,
  [],
  chars "### 5.1 核心实体" rfl,
  [],
  chars "【本章节内容来源：\x7b\x7bcontent_source_8\x7d\x7d】" rfl,
  [],
  chars "| 实体名称 | 字段 | 说明 |" rfl,
  chars "|----------|------|------|" rfl,
  chars "| | | |" rfl,
  [],
  chars "#### 数据模型类图" rfl,
  chars "\x7b\x7binclude_diagram:D-CLASS\x7d\x7d" rfl,
  [],
  chars "> 说明：类名必须与上表\"实体名称\"完全一致；字段类型用 Go/Proto 原生类型；关系边标 `1`/`N` 基数。" rfl,
  [],
  chars "### 5.2 数据流" rfl,
  [],
  chars "【本章节内容来源：\x7b\x7bcontent_source_9\x7d\x7d】" rfl,
  [],
  chars "## 6. 风险评估" rfl,
  [],
  chars "### 6.1 高风险项" rfl,
  [],
  chars "【本章节内容来源：\x7b\x7bcontent_source_10\x7d\x7d】" rfl,
  [],
  chars "| 风险ID | 风险描述 | 影响 | 概率 | 应对策略 |" rfl,
  chars "|--------|----------|------|------|----------|" rfl,
  chars "| R-001 | | 高 | 高 | |" rfl,
  [],
  chars "### 6.2 中低风险项" rfl,
  [],
  chars "| 风险ID | 风险描述 | 影响 | 概率 | 应对策略 |" rfl,
  chars "|--------|----------|------|------|----------|" rfl,
  chars "| R-002 | | 中 | 中 | |" rfl,
  [],
  chars "## 7. 决策记录" rfl,
  [],
  chars "【本章节内容来源：\x7b\x7bcontent_source_11\x7d\x7d】" rfl,
  [],
  chars "| 决策ID | 决策内容 | 决策理由 | 决策者 | 日期 |" rfl,
  chars "|--------|----------|----------|--------|------|" rfl,
  chars "| DEC-001 | | | | |" rfl,
  [],
  chars "## 8. 验收标准" rfl,
  [],
  chars "【本章节内容来源：\x7b\x7bcontent_source_12\x7d\x7d】" rfl,
  [],
  chars "| 验收项 | 验收标准 | 验证方式 |" rfl,
  chars "|--------|----------|----------|" rfl,
  chars "| AC-001 | | |" rfl,
  [],
  chars "## 参考资料" rfl,
  [],
  chars "【本章节内容来源：\x7b\x7bcontent_source_13\x7d\x7d】" rfl,
  [],
  chars "\x7b\x7breferences_list\x7d\x7d" rfl,
  chars "```" rfl,
  [],
  chars "---" rfl,
  []]

/-- `## 2. design_doc`. -/
def designDocSection : List Text := [
  chars "## 2. design_doc（设计文档）" rfl,
  [],
  chars "### 适用场景" rfl,
  chars "详细设计阶段输出，或通过CC Lead分析代码后生成。" rfl,
  [],
  chars "### 模板结构" rfl,
  [],
  chars "```markdown" rfl,
  chars "# 设计文档" rfl,
  [],
  chars "## 基本信息" rfl,
  [],
  chars "| 项目 | 内容 |" rfl,
  chars "|------|------|" rfl,
  chars "| 文档标题 | \x7b\x7btitle\x7d\x7d |" rfl,
  chars "| 版本 | \x7b\x7bversion\x7d\x7d |" rfl,
  chars "| 日期 | \x7b\x7bdate\x7d\x7d |" rfl,
  chars "| 作者 | \x7b\x7bauthor\x7d\x7d |" rfl,
  chars "| 状态 | \x7b\x7bstatus\x7d\x7d |" rfl,
  [],
  chars "## 1. 背景与目标" rfl,
  [],
  chars "### 1.1 背景" rfl,
  [],
  chars "【本章节内容来源：\x7b\x7bcontent_source\x7d\x7d】" rfl,
  [],
  chars "### 1.2 设计目标" rfl,
  [],
  chars "| 目标 | 衡量指标 |" rfl,
  chars "|------|----------|" rfl,
  chars "| | |" rfl,
  [],
  chars "### 1.3 范围界定" rfl,
  [],
  chars "【本章节内容来源：\x7b\x7bcontent_source\x7d\x7d】" rfl,
  [],
  chars "## 2. 技术方案" rfl,
  [],
  chars "### 2.1 总体设计" rfl,
  [],
  chars "【本章节内容来源：\x7b\x7bcontent_source\x7d\x7d】" rfl,
  [],
  chars "#### 2.1.1 架构图" rfl,
  chars "\x7b\x7binclude_diagram:D-ARCH\x7d\x7d" rfl,
  [],
  chars "> 说明：design_doc 比 tech_review 更细粒度——架构图节点可下钻到具体的内部组件（不止服务名，还可含 Handler/Reposit" rfl ++
    chars "ory 等）。" rfl,
  [],
  chars "#### 2.1.2 核心流程" rfl,
  [],
  chars "\x7b\x7binclude_diagram:D-SEQ\x7d\x7d" rfl,
  [],
  chars "> 说明：核心流程时序图与文末文字步骤一一对应；mermaid `autonumber` 编号 == 步骤编号。" rfl,
  [],
  chars "【本章节内容来源：\x7b\x7bcontent_source\x7d\x7d】" rfl,
  [],
  chars "```" rfl,
  chars "流程步骤：" rfl,
  chars "1." rfl,
  chars "2." rfl,
  chars "3." rfl,
  chars "```" rfl,
  [],
  chars "### 2.2 详细设计" rfl,
  [],
  chars "#### 2.2.1 模块A设计" rfl,
  [],
  chars "【本章节内容来源：\x7b\x7bcontent_source\x7d\x7d】" rfl,
  [],
  chars "**职责**：" rfl,
  [],
  chars "**对外接口**：" rfl,
  chars "| 接口 | 说明 |" rfl,
  chars "|------|------|" rfl,
  chars "| | |" rfl,
  [],
  chars "**内部实现**：" rfl,
  [],
  chars "```code" rfl,
  chars "// 关键代码逻辑" rfl,
  chars "```" rfl,
  [],
  chars "#### 2.2.2 模块B设计" rfl,
  [],
  chars "【同上结构】" rfl,
  [],
  chars "## 3. 数据结构" rfl,
  [],
  chars "### 3.1 数据表/实体" rfl,
  [],
  chars "【本章节内容来源：\x7b\x7bcontent_source\x7d\x7d】" rfl,
  [],
  chars "| 表名/实体 | 字段 | 类型 | 说明 |" rfl,
  chars "|-----------|------|------|------|" rfl,
  chars "| | | | |" rfl,
  [],
  chars "### 3.2 索引设计" rfl,
  [],
  chars "| 表名 | 索引类型 | 索引字段 | 说明 |" rfl,
  chars "|------|----------|----------|------|" rfl,
  chars "| | | | |" rfl,
  [],
  chars "## 4. 接口详细设计" rfl,
  [],
  chars "### 4.1 接口A" rfl,
  [],
  chars "【本章节内容来源：\x7b\x7bcontent_source\x7d\x7d】" rfl,
  [],
  chars "**请求**：" rfl,
  chars "```json" rfl,
  chars "\x7b" rfl,
  chars "  \"field1\": \"string\"," rfl,
  chars "  \"field2\": \"number\"" rfl,
  chars "\x7d" rfl,
  chars "```" rfl,
  [],
  chars "**响应**：" rfl,
  chars "```json" rfl,
  chars "\x7b" rfl,
  chars "  \"code\": 0," rfl,
  chars "  \"data\": \x7b\x7d" rfl,
  chars "\x7d" rfl,
  chars "```" rfl,
  [],
  chars "**错误码**：" rfl,
  chars "| 错误码 | 说明 |" rfl,
  chars "|--------|------|" rfl,
  chars "| 1001 | |" rfl,
  [],
  chars "## 5. 异常处理" rfl,
  [],
  chars "【本章节内容来源：\x7b\x7bcontent_source\x7d\x7d】" rfl,
  [],
  chars "| 异常场景 | 处理策略 |" rfl,
  chars "|----------|----------|" rfl,
  chars "| | |" rfl,
  [],
  chars "## 6. 安全性设计" rfl,
  [],
  chars "【本章节内容来源：\x7b\x7bcontent_source\x7d\x7d】" rfl,
  [],
  chars "| 安全点 | 方案 |" rfl,
  chars "|--------|------|" rfl,
  chars "| 认证 | |" rfl,
  chars "| 授权 | |" rfl,
  chars "| 数据加密 | |" rfl,
  [],
  chars "## 7. 性能考虑" rfl,
  [],
  chars "【本章节内容来源：\x7b\x7bcontent_source\x7d\x7d】" rfl,
  [],
  chars "| 性能指标 | 目标值 | 保障措施 |" rfl,
  chars "|----------|--------|----------|" rfl,
  chars "| QPS | | |" rfl,
  chars "| 延迟 | | |" rfl,
  [],
  chars "## 8. 部署方案" rfl,
  [],
  chars "【本章节内容来源：\x7b\x7bcontent_source\x7d\x7d】" rfl,
  [],
  chars "| 环境 | 部署方式 | 资源配置 |" rfl,
  chars "|------|----------|----------|" rfl,
  chars "| PPE | | |" rfl,
  chars "| PROD | | |" rfl,
  [],
  chars "## 9. 迭代计划" rfl,
  [],
  chars "【本章节内容来源：\x7b\x7bcontent_source\x7d\x7d】" rfl,
  [],
  chars "| 阶段 | 内容 | 里程碑 |" rfl,
  chars "|------|------|--------|" rfl,
  chars "| v1.0 | | |" rfl,
  chars "| v2.0 | | |" rfl,
  [],
  chars "## 参考资料" rfl,
  [],
  chars "\x7b\x7breferences_list\x7d\x7d" rfl,
  chars "```" rfl,
  [],
  chars "---" rfl,
  []]

/-- `## 3. research_report`. -/
def researchReportSection : List Text := [
  chars "## 3. research_report（调研报告）" rfl,
  [],
  chars "### 适用场景" rfl,
  chars "技术调研、竞品分析、新技术评估。" rfl,
  [],
  chars "### 模板结构" rfl,
  [],
  chars "```markdown" rfl,
  chars "# 调研报告" rfl,
  [],
  chars "## 基本信息" rfl,
  [],
  chars "| 项目 | 内容 |" rfl,
  chars "|------|------|" rfl,
  chars "| 调研主题 | \x7b\x7btitle\x7d\x7d |" rfl,
  chars "| 版本 | \x7b\x7bversion\x7d\x7d |" rfl,
  chars "| 日期 | \x7b\x7bdate\x7d\x7d |" rfl,
  chars "| 作者 | \x7b\x7bauthor\x7d\x7d |" rfl,
  chars "| 状态 | \x7b\x7bstatus\x7d\x7d |" rfl,
  [],
  chars "## 1. 调研背景" rfl,
  [],
  chars "【本章节内容来源：\x7b\x7bcontent_source\x7d\x7d】" rfl,
  [],
  chars "### 1.1 调研目的" rfl,
  [],
  chars "### 1.2 调研范围" rfl,
  [],
  chars "## 2. 调研方法" rfl,
  [],
  chars "【本章节内容来源：\x7b\x7bcontent_source\x7d\x7d】" rfl,
  [],
  chars "| 方法 | 数据来源 | 样本量 |" rfl,
  chars "|------|----------|--------|" rfl,
  chars "| 文献调研 | | |" rfl,
  chars "| 代码分析 | | |" rfl,
  chars "| 对比分析 | | |" rfl,
  [],
  chars "## 3. 现状分析" rfl,
  [],
  chars "【本章节内容来源：\x7b\x7bcontent_source\x7d\x7d】" rfl,
  [],
  chars "### 3.1 现有方案" rfl,
  [],
  chars "### 3.2 竞品方案" rfl,
  [],
  chars "\x7b\x7binclude_comparison\x7d\x7d" rfl,
  [],
  chars "| 维度 | 现有方案 | 竞品A | 竞品B |" rfl,
  chars "|------|----------|-------|-------|" rfl,
  chars "| 性能 | | | |" rfl,
  chars "| 功能 | | | |" rfl,
  chars "| 易用性 | | | |" rfl,
  chars "| 成本 | | | |" rfl,
  [],
  chars "## 4. 技术方案分析" rfl,
  [],
  chars "【本章节内容来源：\x7b\x7bcontent_source\x7d\x7d】" rfl,
  [],
  chars "### 4.1 方案A" rfl,
  [],
  chars "**优点**：" rfl,
  chars "- " rfl,
  [],
  chars "**缺点**：" rfl,
  chars "- " rfl,
  [],
  chars "**适用场景**：" rfl,
  [],
  chars "### 4.2 方案B" rfl,
  [],
  chars "【同上结构】" rfl,
  [],
  chars "## 5. 推荐方案" rfl,
  [],
  chars "【本章节内容来源：\x7b\x7bcontent_source\x7d\x7d】" rfl,
  [],
  chars "### 5.1 推荐理由" rfl,
  [],
  chars "### 5.2 实施路径" rfl,
  [],
  chars "\x7b\x7binclude_diagram:D-DAG\x7d\x7d" rfl,
  [],
  chars "> 说明：按 §0.4 D-DAG 骨架生成；节点 = 实施阶段，用 `subgraph Phase-N` 表达可并行阶段；边 = 阶段间前置依赖。节点名复" rfl ++
    chars "用下表\"阶段\"列。" rfl,
  [],
  chars "| 阶段 | 内容 | 周期 |" rfl,
  chars "|------|------|------|" rfl,
  chars "| 1 | | |" rfl,
  chars "| 2 | | |" rfl,
  [],
  chars "## 6. 风险与挑战" rfl,
  [],
  chars "【本章节内容来源：\x7b\x7bcontent_source\x7d\x7d】" rfl,
  [],
  chars "| 风险 | 影响 | 应对策略 |" rfl,
  chars "|------|------|----------|" rfl,
  chars "| | | |" rfl,
  [],
  chars "## 7. 结论与建议" rfl,
  [],
  chars "【本章节内容来源：\x7b\x7bcontent_source\x7d\x7d】" rfl,
  [],
  chars "### 7.1 结论" rfl,
  [],
  chars "### 7.2 建议" rfl,
  [],
  chars "## 参考资料" rfl,
  [],
  chars "\x7b\x7breferences_list\x7d\x7d" rfl,
  chars "```" rfl,
  [],
  chars "---" rfl,
  []]

/-- `## 4. module_plan`. -/
def modulePlanSection : List Text := [
  chars "## 4. module_plan（模块拆分文档）" rfl,
  [],
  chars "### 适用场景" rfl,
  chars "PM-Agent模块拆分阶段输出。" rfl,
  [],
  chars "### 模板结构" rfl,
  [],
  chars "```markdown" rfl,
  chars "# 模块拆分文档" rfl,
  [],
  chars "## 基本信息" rfl,
  [],
  chars "| 项目 | 内容 |" rfl,
  chars "|------|------|" rfl,
  chars "| 关联技术评审 | \x7b\x7btech_review_ref\x7d\x7d |" rfl,
  chars "| 版本 | \x7b\x7bversion\x7d\x7d |" rfl,
  chars "| 日期 | \x7b\x7bdate\x7d\x7d |" rfl,
  chars "| 作者 | \x7b\x7bauthor\x7d\x7d |" rfl,
  chars "| 状态 | \x7b\x7bstatus\x7d\x7d |" rfl,
  [],
  chars "## 1. 模块总览" rfl,
  [],
  chars "【本章节内容来源：\x7b\x7bcontent_source\x7d\x7d】" rfl,
  [],
  chars "| 模块ID | 模块名称 | 职责概述 | 复杂度 | 预估工作量 | 依赖 |" rfl,
  chars "|--------|----------|----------|--------|------------|------|" rfl,
  chars "| MOD-001 | | | 高 | 3-5人天 | 无 |" rfl,
  chars "| MOD-002 | | | 中 | 2-3人天 | MOD-001 |" rfl,
  [],
  chars "## 2. 模块依赖关系" rfl,
  [],
  chars "【本章节内容来源：\x7b\x7bcontent_source\x7d\x7d】" rfl,
  [],
  chars "### 2.1 依赖关系图" rfl,
  [],
  chars "\x7b\x7binclude_diagram:D-DAG\x7d\x7d" rfl,
  [],
  chars "> 说明：节点 ID 必须用上方\"模块总览\"表中的\"模块ID\"（如 MOD-001）；可并行的模块放入同一 `subgraph Phase-N`；f" rfl ++
    chars "an-in/fan-out 关系完整体现。" rfl,
  [],
  chars "### 2.2 依赖说明" rfl,
  [],
  chars "| 模块 | 依赖模块 | 依赖原因 |" rfl,
  chars "|------|----------|----------|" rfl,
  chars "| MOD-002 | MOD-001 | 使用其提供的接口 |" rfl,
  [],
  chars "## 3. 详细模块设计" rfl,
  [],
  chars "### 3.1 MOD-001: \x7b模块名称\x7d" rfl,
  [],
  chars "【本章节内容来源：\x7b\x7bcontent_source\x7d\x7d】" rfl,
  [],
  chars "**职责**：" rfl,
  [],
  chars "**对应需求**：" rfl,
  chars "| 需求ID | 需求名称 |" rfl,
  chars "|--------|----------|" rfl,
  chars "| FR-001 | |" rfl,
  [],
  chars "**对外接口**：" rfl,
  chars "| 接口名称 | 输入 | 输出 | 说明 |" rfl,
  chars "|----------|------|------|------|" rfl,
  chars "| | | | |" rfl,
  [],
  chars "**消费接口**：" rfl,
  chars "| 接口名称 | 提供方 | 说明 |" rfl,
  chars "|----------|--------|------|" rfl,
  chars "| | | |" rfl,
  [],
  chars "**数据结构**：" rfl,
  chars "| 结构名称 | 字段 | 说明 |" rfl,
  chars "|----------|------|------|" rfl,
  chars "| | | |" rfl,
  [],
  chars "**技术关注点**：" rfl,
  [],
  chars "**预估工作量**：3-5人天" rfl,
  [],
  chars "---" rfl,
  [],
  chars "### 3.2 MOD-002: \x7b模块名称\x7d" rfl,
  [],
  chars "【同上结构】" rfl,
  [],
  chars "## 4. 模块间接口汇总" rfl,
  [],
  chars "【本章节内容来源：\x7b\x7bcontent_source\x7d\x7d】" rfl,
  [],
  chars "| 接口ID | 接口名称 | 调用方 | 实现方 | 数据格式 |" rfl,
  chars "|--------|----------|--------|--------|----------|" rfl,
  chars "| I-001 | | MOD-002 | MOD-001 | JSON |" rfl,
  chars "| I-002 | | MOD-003 | MOD-001 | Protobuf |" rfl,
  [],
  chars "## 5. 验收标准" rfl,
  [],
  chars "【本章节内容来源：\x7b\x7bcontent_source\x7d\x7d】" rfl,
  [],
  chars "| 模块 | 验收标准 | 验证方式 |" rfl,
  chars "|------|----------|----------|" rfl,
  chars "| MOD-001 | | |" rfl,
  [],
  chars "## 参考资料" rfl,
  [],
  chars "\x7b\x7breferences_list\x7d\x7d" rfl,
  chars "```" rfl,
  [],
  chars "---" rfl,
  []]

/-- `## 5. task_plan`. -/
def taskPlanSection : List Text := [
  chars "## 5. task_plan（Task规划文档）" rfl,
  [],
  chars "### 适用场景" rfl,
  chars "PM-Agent Task规划阶段输出。" rfl,
  [],
  chars "### 模板结构" rfl,
  [],
  chars "```markdown" rfl,
  chars "# Task规划文档" rfl,
  [],
  chars "## 基本信息" rfl,
  [],
  chars "| 项目 | 内容 |" rfl,
  chars "|------|------|" rfl,
  chars "| 关联模块拆分 | \x7b\x7bmodule_plan_ref\x7d\x7d |" rfl,
  chars "| 版本 | \x7b\x7bversion\x7d\x7d |" rfl,
  chars "| 日期 | \x7b\x7bdate\x7d\x7d |" rfl,
  chars "| 作者 | \x7b\x7bauthor\x7d\x7d |" rfl,
  chars "| 状态 | \x7b\x7bstatus\x7d\x7d |" rfl,
  [],
  chars "## 1. Task总览" rfl,
  [],
  chars "【本章节内容来源：\x7b\x7bcontent_source\x7d\x7d】" rfl,
  [],
  chars "| Task ID | Task名称 | 所属模块 | 工作量 | 优先级 | 依赖 |" rfl,
  chars "|---------|----------|----------|--------|--------|------|" rfl,
  chars "| TASK-001 | | MOD-001 | 1人天 | P0 | 无 |" rfl,
  chars "| TASK-002 | | MOD-001 | 2人天 | P0 | TASK-001 |" rfl,
  [],
  chars "## 2. 建议执行顺序" rfl,
  [],
  chars "【本章节内容来源：\x7b\x7bcontent_source\x7d\x7d】" rfl,
  [],
  chars "### 2.1 阶段划分" rfl,
  [],
  chars "\x7b\x7binclude_diagram:D-DAG\x7d\x7d" rfl,
  [],
  chars "> 说明：按 §0.4 D-DAG 骨架生成；节点 ID 必须用上方\"Task总览\"表的 Task ID（如 TASK-001）；可并行的 Task 放" rfl ++
    chars "入同一 `subgraph Phase-N`；边 = 依赖关系，须与下方\"关键路径\"一致。" rfl,
  [],
  chars "**阶段1（可并行）**：TASK-001, TASK-005, TASK-010" rfl,
  chars "**阶段2（依赖阶段1）**：TASK-002, TASK-003, TASK-006" rfl,
  chars "**阶段3（收尾）**：TASK-008" rfl,
  [],
  chars "### 2.2 关键路径" rfl,
  [],
  chars "TASK-001 → TASK-002 → TASK-004 → TASK-009（约5人天）" rfl,
  [],
  chars "## 3. 详细Task说明" rfl,
  [],
  chars "### 3.1 TASK-001: \x7bTask名称\x7d" rfl,
  [],
  chars "【本章节内容来源：\x7b\x7bcontent_source\x7d\x7d】" rfl,
  [],
  chars "**所属模块**：MOD-001" rfl,
  [],
  chars "**Task描述**：" rfl,
  [],
  chars "**输入**：" rfl,
  chars "- " rfl,
  [],
  chars "**输出**：" rfl,
  chars "- " rfl,
  [],
  chars "**验收标准**：" rfl,
  chars "| 标准 | 验证方式 |" rfl,
  chars "|------|----------|" rfl,
  chars "| | |" rfl,
  [],
  chars "**技术备注**：" rfl,
  [],
  chars "**预估工作量**：1人天" rfl,
  [],
  chars "**依赖Task**：无" rfl,
  [],
  chars "**被依赖Task**：TASK-002, TASK-003" rfl,
  [],
  chars "---" rfl,
  [],
  chars "### 3.2 TASK-002: \x7bTask名称\x7d" rfl,
  [],
  chars "【同上结构】" rfl,
  [],
  chars "## 4. 工作量估算汇总" rfl,
  [],
  chars "【本章节内容来源：\x7b\x7bcontent_source\x7d\x7d】" rfl,
  [],
  chars "| 统计项 | 数值 |" rfl,
  chars "|--------|------|" rfl,
  chars "| 总Task数 | 10个 |" rfl,
  chars "| 总工作量 | 15-20人天 |" rfl,
  chars "| P0 Task数 | 6个 |" rfl,
  chars "| P0工作量 | 10-12人天 |" rfl,
  chars "| 关键路径工作量 | 5人天 |" rfl,
  [],
  chars "## 5. 风险与注意事项" rfl,
  [],
  chars "【本章节内容来源：\x7b\x7bcontent_source\x7d\x7d】" rfl,
  [],
  chars "| 风险/注意事项 | 影响 | 应对 |" rfl,
  chars "|---------------|------|------|" rfl,
  chars "| | | |" rfl,
  [],
  chars "## 参考资料" rfl,
  [],
  chars "\x7b\x7breferences_list\x7d\x7d" rfl,
  chars "```" rfl,
  [],
  chars "---" rfl,
  []]

/-- `## 6. test_plan`. -/
def testPlanSection : List Text := [
  chars "## 6. test_plan（测试计划）" rfl,
  [],
  chars "### 适用场景" rfl,
  chars "测试计划阶段输出。" rfl,
  [],
  chars "### 模板结构" rfl,
  [],
  chars "```markdown" rfl,
  chars "# 测试计划" rfl,
  [],
  chars "## 基本信息" rfl,
  [],
  chars "| 项目 | 内容 |" rfl,
  chars "|------|------|" rfl,
  chars "| 关联需求 | \x7b\x7brequirement_ref\x7d\x7d |" rfl,
  chars "| 版本 | \x7b\x7bversion\x7d\x7d |" rfl,
  chars "| 日期 | \x7b\x7bdate\x7d\x7d |" rfl,
  chars "| 作者 | \x7b\x7bauthor\x7d\x7d |" rfl,
  chars "| 状态 | \x7b\x7bstatus\x7d\x7d |" rfl,
  [],
  chars "## 1. 测试范围" rfl,
  [],
  chars "【本章节内容来源：\x7b\x7bcontent_source\x7d\x7d】" rfl,
  [],
  chars "### 1.1 功能测试范围" rfl,
  [],
  chars "| 模块 | 测试功能点 |" rfl,
  chars "|------|------------|" rfl,
  chars "| MOD-001 | |" rfl,
  [],
  chars "### 1.2 非功能测试范围" rfl,
  [],
  chars "| 测试类型 | 测试内容 |" rfl,
  chars "|----------|----------|" rfl,
  chars "| 性能测试 | |" rfl,
  chars "| 安全测试 | |" rfl,
  [],
  chars "## 2. 测试策略" rfl,
  [],
  chars "【本章节内容来源：\x7b\x7bcontent_source\x7d\x7d】" rfl,
  [],
  chars "### 2.1 测试方法" rfl,
  [],
  chars "| 测试类型 | 方法 | 工具 |" rfl,
  chars "|----------|------|------|" rfl,
  chars "| 单元测试 | | go test |" rfl,
  chars "| 集成测试 | | |" rfl,
  chars "| 端到端测试 | | |" rfl,
  [],
  chars "### 2.2 测试环境" rfl,
  [],
  chars "| 环境 | 用途 | 配置 |" rfl,
  chars "|------|------|------|" rfl,
  chars "| DEV | 开发调试 | |" rfl,
  chars "| PPE | 预发布测试 | |" rfl,
  chars "| PROD | 灰度/正式 | |" rfl,
  [],
  chars "## 3. 测试用例设计" rfl,
  [],
  chars "【本章节内容来源：\x7b\x7bcontent_source\x7d\x7d】" rfl,
  [],
  chars "### 3.1 功能测试用例" rfl,
  [],
  chars "| 用例ID | 用例名称 | 前置条件 | 测试步骤 | 预期结果 |" rfl,
  chars "|--------|----------|----------|----------|----------|" rfl,
  chars "| TC-001 | | | | |" rfl,
  [],
  chars "### 3.2 边界测试用例" rfl,
  [],
  chars "| 用例ID | 用例名称 | 边界条件 | 预期结果 |" rfl,
  chars "|--------|----------|----------|----------|" rfl,
  chars "| BC-001 | | | |" rfl,
  [],
  chars "## 4. 测试进度安排" rfl,
  [],
  chars "【本章节内容来源：\x7b\x7bcontent_source\x7d\x7d】" rfl,
  [],
  chars "\x7b\x7binclude_diagram:D-DAG\x7d\x7d" rfl,
  [],
  chars "> 说明：按 §0.4 D-DAG 骨架生成；节点 = 测试阶段（单元/集成/端到端…），用 `subgraph Phase-N` 表达可并行阶段；边 = " rfl ++
    chars "阶段间前置依赖。节点名复用下表\"阶段\"列。" rfl,
  [],
  chars "| 阶段 | 内容 | 开始日期 | 结束日期 | 负责人 |" rfl,
  chars "|------|------|----------|----------|--------|" rfl,
  chars "| 单元测试 | | | | |" rfl,
  chars "| 集成测试 | | | | |" rfl,
  [],
  chars "## 5. 测试交付物" rfl,
  [],
  chars "【本章节内容来源：\x7b\x7bcontent_source\x7d\x7d】" rfl,
  [],
  chars "| 交付物 | 格式 | 提交时间 |" rfl,
  chars "|--------|------|----------|" rfl,
  chars "| 测试用例 | Excel/Markdown | |" rfl,
  chars "| 测试报告 | | |" rfl,
  [],
  chars "## 6. 测试风险" rfl,
  [],
  chars "【本章节内容来源：\x7b\x7bcontent_source\x7d\x7d】" rfl,
  [],
  chars "| 风险 | 概率 | 影响 | 应对 |" rfl,
  chars "|------|------|------|------|" rfl,
  chars "| | | | |" rfl,
  [],
  chars "## 参考资料" rfl,
  [],
  chars "\x7b\x7breferences_list\x7d\x7d" rfl,
  chars "```" rfl,
  [],
  chars "---" rfl,
  []]

/-- `## 7. idea_refine`. -/
def ideaRefineSection : List Text := [
  chars "## 7. idea_refine（想法结构化）" rfl,
  [],
  chars "### 适用场景" rfl,
  chars "用户输入模糊想法（少于 200 字，或含模糊词汇），需要通过结构化收敛将想法转化为具体提案。" rfl,
  [],
  chars "### 与 doc-output 的关系" rfl,
  chars "- **doc-output 前置步骤**：IdeaRefiner 先于并行获取执行" rfl,
  chars "- **用户确认后**：再进入正常 doc-output 并行获取流程" rfl,
  chars "- **输出文件**：`docs/idea_refinement_\x7btimestamp\x7d.md`" rfl,
  [],
  chars "### 模板结构" rfl,
  [],
  chars "```markdown" rfl,
  chars "# Idea Refinement 结果" rfl,
  [],
  chars "> 生成时间: \x7btimestamp\x7d" rfl,
  chars "> 原始输入: \x7braw_input_snippet\x7d..." rfl,
  [],
  chars "---" rfl,
  [],
  chars "## 核心目标" rfl,
  [],
  chars "（收敛到 1-3 个核心目标，简化为一句话可陈述的意图）" rfl,
  [],
  chars "**填写指引**：" rfl,
  chars "- 每个目标必须是**可验证的**（有指标）" rfl,
  chars "- 必须包含**受益方**（谁因此受益）" rfl,
  chars "- 避免解决方案语言（不要说\"用 WebSocket\"）" rfl,
  [],
  chars "示例：" rfl,
  chars "> 核心目标：在告警产生后 1 分钟内，通过智能合并将同源/同类告警收敛为 1 条，" rfl,
  chars "> 将日均告警量减少 70% 以上，同时保证 critical 告警零漏报。" rfl,
  [],
  chars "**LLM 分析区（请基于原始输入填充）**：" rfl,
  [],
  chars "```" rfl,
  chars "[由 LLM 根据原始输入分析填写]" rfl,
  chars "```" rfl,
  [],
  chars "---" rfl,
  [],
  chars "## 约束条件" rfl,
  [],
  chars "（收敛到明确的边界条件，包括：技术约束、时间约束、质量约束、资源约束）" rfl,
  [],
  chars "**填写指引**：" rfl,
  chars "- 约束必须是**硬边界**（不可突破）" rfl,
  chars "- 区分\"已确认约束\"和\"推测约束\"（标注来源）" rfl,
  [],
  chars "示例：" rfl,
  chars "> - 技术约束：必须兼容 iOS 12+ 和 Android 8+" rfl,
  chars "> - 性能约束：首屏加载时间 ≤ 2s" rfl,
  chars "> - 资源约束：团队 2 人，2 个月内交付" rfl,
  [],
  chars "**LLM 分析区（请基于原始输入填充）**：" rfl,
  [],
  chars "```" rfl,
  chars "[由 LLM 根据原始输入分析填写]" rfl,
  chars "```" rfl,
  [],
  chars "---" rfl,
  [],
  chars "## 开放问题" rfl,
  [],
  chars "（尚需探索的问题，按优先级排序）" rfl,
  [],
  chars "**填写指引**：" rfl,
  chars "- 每个开放问题必须附带**不确定性描述**" rfl,
  chars "- P0 = 阻塞立项，P1 = 阻塞技术方案，P2 = 可后续决定" rfl,
  [],
  chars "示例：" rfl,
  chars "> 1. [P0] 收敛策略选择：基于规则的关键词匹配 vs 基于 ML 的语义聚类？" rfl,
  chars ">    — 不确定：规则简单但需人工维护，ML 准确但冷启动难" rfl,
  chars "> 2. [P0] \"同类告警\"的定义边界在哪里？" rfl,
  chars ">    — 不确定：是按服务/模块维度，还是按错误类型维度" rfl,
  [],
  chars "**LLM 分析区（请基于原始输入填充）**：" rfl,
  [],
  chars "```" rfl,
  chars "[由 LLM 根据原始输入分析填写]" rfl,
  chars "```" rfl,
  [],
  chars "---" rfl,
  [],
  chars "## 收敛路径记录" rfl,
  [],
  chars "（发散过程中产生的备选方向/方案，仅作记录，不深入展开）" rfl,
  [],
  chars "**填写指引**：" rfl,
  chars "- 记录已放弃的方向及其放弃原因" rfl,
  chars "- 帮助后续追溯决策过程" rfl,
  [],
  chars "示例：" rfl,
  chars "> - 备选方向A（ML 智能收敛）：已放弃 → 原因：2 人团队无法在 2 个月内完成 ML 模型训练和调优" rfl,
  chars "> - 备选方向B（完全自定义规则引擎）：已放弃 → 原因：规则配置复杂，与 MVP 快速交付目标冲突" rfl,
  chars "> - 收敛到方向C（规则 + 轻量级聚类混合）：当前推荐" rfl,
  [],
  chars "**LLM 分析区（请基于原始输入填充）**：" rfl,
  [],
  chars "```" rfl,
  chars "[由 LLM 记录发散-收敛过程]" rfl,
  chars "```" rfl,
  [],
  chars "---" rfl,
  [],
  chars "## 原始输入" rfl,
  [],
  chars "```markdown" rfl,
  chars "\x7braw_content\x7d" rfl,
  chars "```" rfl,
  chars "```" rfl,
  [],
  chars "### IdeaRefiner 触发条件" rfl,
  [],
  chars "| 条件 | 说明 |" rfl,
  chars "|------|------|" rfl,
  chars "| `doc_type == 'idea_refine'` | 用户/Orchestrator 显式指定 |" rfl,
  chars "| `orchestrator_mark.requirement_type == 'rough_idea'` | Orchestrator 传入标记 |" rfl,
  chars "| 无明确输入源 AND 字数 < 200 | 没有 URL/文件路径，字数不足 |" rfl,
  chars "| 含模糊词汇 AND 字数 < 200 | 包含\"大概、想做、看看能不能\"等词 |" rfl,
  [],
  chars "### IdeaRefiner 产出" rfl,
  [],
  chars "| 文件 | 说明 |" rfl,
  chars "|------|------|" rfl,
  chars "| `docs/idea_refinement_\x7btimestamp\x7d.md` | 结构化三元组文档 |" rfl,
  [],
  chars "### 用户确认选项" rfl,
  [],
  chars "| 选项 | value | 后续动作 |" rfl,
  chars "|------|-------|---------|" rfl,
  chars "| A: 方向正确，继续展开 | `confirm_continue` | 进入 doc-output 并行获取 |" rfl,
  chars "| B: 核心目标需要调整 | `adjust_goal` | 等待用户修改后重新传入 |" rfl,
  chars "| C: 补充约束条件 | `add_constraints` | 等待用户修改后重新传入 |" rfl,
  chars "| D: 其他澄清 | `other_clarification` | 等待用户修改后重新传入 |" rfl,
  [],
  chars "---" rfl,
  []]

/-- How the templates are used. -/
def templatesUsage : List Text := [
  chars "## 模板使用说明" rfl,
  [],
  chars "### 内容来源标注" rfl,
  [],
  chars "在模板中，`\x7b\x7bcontent_source_X\x7d\x7d` 标注该章节内容的来源：" rfl,
  chars "- `code_repository`: CC Lead分析代码仓库" rfl,
  chars "- `feishu_doc`: 飞书文档" rfl,
  chars "- `web`: 外部URL" rfl,
  chars "- `aime`: AIME分析" rfl,
  chars "- `direct`: 用户直接输入" rfl,
  [],
  chars "### 图表占位符" rfl,
  [],
  chars "- `\x7b\x7binclude_diagram\x7d\x7d`：通用占位（兼容旧文档）。**新文档应改用带图代号的形式**。" rfl,
  chars "- `\x7b\x7binclude_diagram:D-ARCH\x7d\x7d` / `\x7b\x7binclude_diagram:D-SEQ" rfl ++
    chars "\x7d\x7d` / `\x7b\x7binclude_diagram:D-DECISION\x7d\x7d` / `\x7b\x7binclude_di" rfl ++
    chars "agram:D-CLASS\x7d\x7d` / `\x7b\x7binclude_diagram:D-DAG\x7d\x7d` / `\x7b\x7bin" rfl ++
    chars "clude_diagram:D-STATE\x7d\x7d`：**强类型占位**，runner 必须按 §0.4 骨架生成对应 mermaid 块。" rfl,
  chars "- `\x7b\x7binclude_diagram:multi\x7d\x7d`：多图位（如 tech_review §2 同时含 D-ARCH + D-" rfl ++
    chars "SEQ）。" rfl,
  chars "- `\x7b\x7binclude_comparison\x7d\x7d`：对比分析表格，由 Agent 生成。" rfl,
  chars "- **fallback**：当 mermaid 渲染失败或所需上下文缺失时，runner 应保留源码块 + `<!-- TODO: mermaid 渲染失" rfl ++
    chars "败/上下文缺失，待补 -->` 注释，不可静默删除。" rfl,
  [],
  chars "### 输出时替换" rfl,
  [],
  chars "生成文档时，Agent应：" rfl,
  chars "1. 删除所有 `\x7b\x7b...\x7d\x7d` 占位符" rfl,
  chars "2. 用实际内容替换" rfl,
  chars "3. 保留【本章节内容来源：...】标注（用于追溯）" rfl,
  []]

/-- **The content of the file.** -/
def templatesMd : Text := joined (templatesGuide ++ techReviewSection ++ designDocSection ++
  researchReportSection ++ modulePlanSection ++ taskPlanSection ++ testPlanSection ++
  ideaRefineSection ++ templatesUsage)

end Docs
end Shrimp
